import TemplateLint.Proofs.FileTree.Discovery
import TemplateLint.Proofs.FileTree.Lookup
import TemplateLint.Proofs.Path.Texts

/-!
# What is found in a directory

The paths that a directory stands for are exactly those of the files below it
that no hidden name leads to and that have an extension of the allow-list, each
once and in the order of their names.  The directories on the way have to be
listed and entered.  A link counts as the file that it leads to; a file whose
path is too long to be looked up does not count.
-/

namespace TemplateLint.FileTree

/-- The names lead through directories, which may be listed and entered, to a
regular file with a path that can be looked up, or through directories that
may be listed to a link with a path that leads to a regular file. -/
inductive LeadsToFile (tree : FileTree) (root : Path) (directory : Node)
    (names : List Path) : Prop
  | file {content : ByteArray} {mode : FileMode} :
      directory.descend? Access.full names = some (.file content mode) →
      mode.regular = true →
      (Path.below root names).length ≤ longestPath →
        LeadsToFile tree root directory names
  | link {target : Path} :
      directory.descend? Access.listed names = some (.link target) →
      tree.isFile (Path.below root names) = true →
        LeadsToFile tree root directory names

/-- The names of a file that is found in a directory. -/
structure IsFound (tree : FileTree) (allowed : List String) (root : Path)
    (directory : Node) (names : List Path) : Prop where
  visible : ∀ name ∈ names, isHidden name = false
  leads : LeadsToFile tree root directory names
  linted : extensionOf (Path.below root names).shown ∈ allowed

variable {tree : FileTree} {root : Path} {directory : Node}

theorem leadsToFile_iff (resolved : tree.lookup root = .ok directory)
    (names : List Path) :
    LeadsToFile tree root directory names ↔
      tree.isFile (Path.below root names) = true ∧
      ∃ last, directory.descend? Access.listed names = some last ∧
        last.isLeaf = true := by
  constructor
  · intro leads
    cases leads with
    | @file content mode descends regular short =>
        obtain ⟨listed, entered⟩ := (Node.descend?_and_iff _ _).mp descends
        have found := lookup_below resolved entered (by simp) short
        have isFile : tree.isFile (Path.below root names) = true :=
          (isFile_eq_true_iff tree _).mpr ⟨content, mode, found, regular⟩
        exact ⟨isFile, _, listed, rfl⟩
    | link listed isFile => exact ⟨isFile, _, listed, rfl⟩
  · rintro ⟨isFile, last, listed, leaf⟩
    cases last with
    | directory access entries => cases leaf
    | link target => exact .link listed isFile
    | file content mode =>
        obtain ⟨_, _, found, regular⟩ := (isFile_eq_true_iff tree _).mp isFile
        have short := short_of_lookup found
        cases entered : directory.descend? Access.entered names with
        | none =>
            exact absurd found
              (lookup_below_of_closed resolved listed entered _)
        | some other =>
            cases Node.descend?_unique listed entered
            have leads := lookup_below resolved entered (by simp) short
            cases found.symm.trans leads
            exact .file ((Node.descend?_and_iff _ _).mpr ⟨listed, entered⟩)
              regular short

/-- The names of the files that are found, in the order of the walk. -/
def foundNames (tree : FileTree) (allowed : List String) (root : Path)
    (directory : Node) : List (List Path) :=
  directory.leaves.filter fun names =>
    tree.isLinted allowed (Path.below root names)

theorem mem_foundNames_iff (resolved : tree.lookup root = .ok directory)
    (allowed : List String) (names : List Path) :
    names ∈ foundNames tree allowed root directory ↔
      IsFound tree allowed root directory names := by
  have met := Node.mem_leaves_iff (wellFormed_of_lookup resolved) names
  have leadsIff := leadsToFile_iff resolved names
  rw [foundNames, List.mem_filter, met, isLinted, Bool.and_eq_true,
    decide_eq_true_eq]
  constructor
  · rintro ⟨⟨visible, last⟩, isFile, linted⟩
    exact ⟨visible, leadsIff.mpr ⟨isFile, last⟩, linted⟩
  · rintro ⟨visible, leads, linted⟩
    obtain ⟨isFile, last⟩ := leadsIff.mp leads
    exact ⟨⟨visible, last⟩, isFile, linted⟩

theorem pairwise_foundNames (resolved : tree.lookup root = .ok directory)
    (allowed : List String) :
    (foundNames tree allowed root directory).Pairwise (· < ·) :=
  (Node.pairwise_leaves _ (wellFormed_of_lookup resolved)).filter _

section Directory

variable {access : Access} {entries : List (Path × Node)}

theorem resolve_eq_foundNames
    (resolved : tree.lookup root = .ok (.directory access entries))
    (allowed : List String) :
    tree.resolve allowed root =
      .directory ((foundNames tree allowed root
        (.directory access entries)).map (Path.below root)) := by
  rw [resolve, resolved]
  simp only [Node.pathsBelow_eq, List.filter_map]
  rfl

/-- Files that are found in a directory have proper names, at least one
each. -/
theorem isName_of_isFound {allowed : List String} {names : List Path}
    (resolved : tree.lookup root = .ok (.directory access entries))
    (found : IsFound tree allowed root (.directory access entries) names) :
    names ≠ [] ∧ ∀ name ∈ names, IsName name := by
  obtain ⟨_, last, descends, leaf⟩ :=
    (leadsToFile_iff resolved names).mp found.leads
  constructor
  · rintro rfl
    cases descends
    cases leaf
  · exact Node.isName_of_descend? (wellFormed_of_lookup resolved) descends

theorem nodup_foundPaths
    (resolved : tree.lookup root = .ok (.directory access entries))
    (allowed : List String) :
    ((foundNames tree allowed root (.directory access entries)).map
      (Path.below root)).Nodup := by
  have filled := (canFollow_of_lookup resolved).filled
  rw [List.Nodup, List.pairwise_map]
  refine (pairwise_foundNames resolved allowed).imp_of_mem ?_
  intro left right leftMember rightMember smaller samePath
  rw [mem_foundNames_iff resolved] at leftMember rightMember
  obtain ⟨leftSome, leftProper⟩ := isName_of_isFound resolved leftMember
  obtain ⟨rightSome, rightProper⟩ := isName_of_isFound resolved rightMember
  have sameNames := Path.below_injective filled leftSome leftProper rightSome
    rightProper samePath
  subst sameNames
  exact List.lt_irrefl left smaller

/-- A directory stands for the paths of the files that are found in it, each
once, in the order of the bytes of their names. -/
theorem resolve_directory_exact
    (resolved : tree.lookup root = .ok (.directory access entries))
    (allowed : List String) :
    ∃ found : List (List Path),
      tree.resolve allowed root =
        .directory (found.map (Path.below root)) ∧
      (∀ names, names ∈ found ↔
        IsFound tree allowed root (.directory access entries) names) ∧
      (found.map (Path.below root)).Nodup ∧
      found.Pairwise (· < ·) :=
  ⟨foundNames tree allowed root (.directory access entries),
    resolve_eq_foundNames resolved allowed,
    mem_foundNames_iff resolved allowed,
    nodup_foundPaths resolved allowed,
    pairwise_foundNames resolved allowed⟩

end Directory

/-- A link to a hidden directory with a file in a directory with a point in
its name, a hidden file, a link to a file, a link to a directory and two
directories, one that may not be entered and one that may not be listed. -/
theorem resolve_directory_exact_hidden_root :
    let tree := (((((((FileTree.empty.putFile ".site/x.d/c.md"
      ByteArray.empty).putFile ".site/.b.md" ByteArray.empty).putLink
        ".site/a.md" "x.d/c.md").putLink ".site/e.md" "x.d").putFile
          ".site/f/g.md" ByteArray.empty).putDirectory ".site/f"
            { entered := false }).putDirectory ".site/h"
              { listed := false }).putLink "theme" "/work/./.site"
    ∃ access entries,
      tree.lookup "../work/theme" = .ok (.directory access entries) ∧
      tree.resolve ["md"] "../work/theme" =
        .directory ["../work/theme/a.md", "../work/theme/x.d/c.md"] ∧
      ∃ found : List (List Path),
        tree.resolve ["md"] "../work/theme" =
          .directory (found.map (Path.below "../work/theme")) ∧
        (∀ names, names ∈ found ↔
          IsFound tree ["md"] "../work/theme" (.directory access entries)
            names) ∧
        (found.map (Path.below "../work/theme")).Nodup ∧
        found.Pairwise (· < ·) := by
  intro tree
  have paths : tree.resolve ["md"] "../work/theme" =
      .directory ["../work/theme/a.md", "../work/theme/x.d/c.md"] := by
    decide +kernel
  obtain ⟨access, entries, resolved, _⟩ := lookup_of_resolve paths
  exact ⟨access, entries, resolved, paths,
    resolve_directory_exact resolved ["md"]⟩

/-! ## Paths that are too long -/

/-- No path that is found is too long. -/
theorem short_of_mem_directory {allowed : List String} {paths : List Path}
    {path : Path} (resolved : tree.resolve allowed root = .directory paths)
    (member : path ∈ paths) : path.length ≤ longestPath := by
  have linted := isLinted_of_mem_directory resolved member
  rw [isLinted, Bool.and_eq_true] at linted
  obtain ⟨_, _, found, _⟩ := (isFile_eq_true_iff tree path).mp linted.1
  exact short_of_lookup found

/-- A directory in which a single node has been put. -/
theorem lookup_place {outer name : Path} (outerProper : IsName outer)
    (proper : IsName name) {node : Node} (wellFormed : node.WellFormed) :
    (FileTree.empty.place (outer ++ Path.slash :: name) node
      wellFormed).lookup outer = .ok (.directory {} [(name, node)]) := by
  have names : namesOf (outer ++ Path.slash :: name) = [outer, name] := by
    rw [namesOf, Path.parts_append,
      Path.parts_of_noSlash outerProper.no_slash,
      Path.parts_of_noSlash proper.no_slash]
    simp [outerProper.not_void, proper.not_void]
  have allProper : ∀ part ∈ namesOf (outer ++ Path.slash :: name),
      IsName part := by
    rw [names, List.forall_mem_cons, List.forall_mem_singleton]
    exact ⟨outerProper, proper⟩
  have entries : (FileTree.empty.place (outer ++ Path.slash :: name) node
      wellFormed).entries = [(outer, .directory {} [(name, node)])] := by
    rw [place, dif_pos allProper]
    have alone : Node.replace none node = node := by
      cases node with
      | file _ _ | link _ => rfl
      | directory _ entries => cases entries <;> rfl
    simp [names, Node.put, NameMap.set, empty, Node.opened, alone]
  have access : (FileTree.empty.place (outer ++ Path.slash :: name) node
      wellFormed).access = {} := by
    rw [place, dif_pos allProper]
    rfl
  have short := Nat.le_trans outerProper.short
    (show longestName ≤ longestPath by decide)
  have arrives : ∃ above, (FileTree.empty.place (outer ++ Path.slash :: name)
      node wellFormed).position.advance [outer] = .ok (.arrived
        ⟨.directory {} [(name, node)], above⟩) := by
    rw [position, Position.advance_cons_name outerProper (by rw [access]),
      entries, NameMap.get?_cons, if_pos rfl]
    exact ⟨_, rfl⟩
  rw [← Path.parts_of_noSlash outerProper.no_slash] at arrives
  obtain ⟨above, arrives⟩ := arrives
  rw [lookup_eq_ok_iff, Position.origin,
    Path.isAbsolute_of_isName outerProper, if_neg Bool.false_ne_true]
  exact ⟨⟨Path.ne_nil_of_isName outerProper, outerProper.no_nul⟩, short,
    above, .arrives arrives⟩

/-- A name of so many bytes with an extension. -/
def nameOf (count : Nat) : String :=
  String.ofList (List.replicate count 'a') ++ "." ++ "md"

theorem ofText_nameOf (count : Nat) :
    Path.ofText (nameOf count) =
      List.replicate count 97 ++ Path.ofText ("." ++ "md") := by
  have single : String.utf8EncodeChar 'a' = [97] := by decide
  rw [nameOf, String.append_assoc, Path.ofText_append,
    Path.ofText_replicate single]

theorem length_nameOf (count : Nat) :
    (Path.ofText (nameOf count)).length = count + 3 := by
  rw [ofText_nameOf, List.length_append, List.length_replicate]
  rfl

theorem isName_nameOf {count : Nat} (short : count + 3 ≤ longestName) :
    IsName (nameOf count) := by
  have bytes : ∀ byte ∈ Path.ofText (nameOf count),
      byte ∈ [97, 46, 109, 100] := by
    have ending : Path.ofText ("." ++ "md") = [46, 109, 100] := by decide
    rw [ofText_nameOf, List.forall_mem_append, ending]
    exact ⟨fun byte member => by simp [List.eq_of_mem_replicate member],
      fun byte member => List.mem_cons_of_mem _ member⟩
  apply Path.isName_of_length (fun member => absurd (bytes _ member)
    (by decide)) (fun member => absurd (bytes _ member) (by decide))
  · rw [length_nameOf]
    omega
  · rw [length_nameOf]
    exact short

theorem isHidden_nameOf (count : Nat) : isHidden (nameOf (count + 1)) =
    false := by
  rw [isHidden, Path.toText?_ofText]
  simp [nameOf, List.replicate_succ]

/-- A directory with an empty file that has a long name. -/
def longNamed : FileTree :=
  FileTree.empty.putFile ("d" ++ Path.slash :: Path.ofText (nameOf 247))
    ByteArray.empty

theorem lookup_longNamed :
    longNamed.lookup "d" =
      .ok (.directory {} [(nameOf 247, .file ByteArray.empty {})]) := by
  rw [longNamed, putFile]
  exact lookup_place (by decide) (isName_nameOf (by decide)) _

/-- The path of a directory with so many slashes behind it. -/
def slashed (count : Nat) : Path :=
  "d" ++ List.replicate count Path.slash

theorem length_slashed (count : Nat) : (slashed count).length = count + 1 := by
  rw [slashed, List.length_append, List.length_replicate, Nat.add_comm]
  rfl

theorem below_slashed {name : Path} (proper : IsName name) (count : Nat) :
    Path.below (slashed (count + 1)) [name] = slashed (count + 1) ++ name :=
  Path.below_slashes "d" proper.no_slash count

theorem extensionOf_slashed (count length : Nat) :
    extensionOf (slashed count ++ Path.ofText (nameOf length)).shown =
      "md" := by
  have single : String.utf8EncodeChar '/' = [Path.slash] := by decide
  rw [slashed, ← Path.ofText_replicate single, ← Path.ofText_append,
    ← Path.ofText_append, Path.shown_ofText, nameOf, ← String.append_assoc,
    ← String.append_assoc]
  exact extensionOf_append _ (by decide)

/-- With enough slashes behind the path of its directory, the path of a file
with a long name is too long. -/
theorem resolve_leaves_out_long_path :
    let root := slashed 3900
    let name : Path := nameOf 247
    ∃ access entries paths,
      longNamed.lookup root = .ok (.directory access entries) ∧
      isHidden name = false ∧
      (Node.directory access entries).descend? Access.full [name] =
        some (.file ByteArray.empty {}) ∧
      extensionOf (Path.below root [name]).shown ∈ defaultExtensions ∧
      longNamed.resolve defaultExtensions root = .directory paths ∧
      Path.below root [name] ∉ paths := by
  intro root name
  have resolved := lookup_append_slashes lookup_longNamed 3900 (by decide)
  have paths := resolve_eq_foundNames resolved defaultExtensions
  have whole : Path.below root [name] = root ++ name :=
    below_slashed (isName_nameOf (by decide)) 3899
  refine ⟨_, _, _, resolved, isHidden_nameOf 246, ?_, ?_, paths, ?_⟩
  · simp [Node.descend?, NameMap.get?_cons, Access.full, name]
  · rw [whole, extensionOf_slashed]
    decide
  · intro member
    have short := short_of_mem_directory paths member
    rw [whole, List.length_append, length_slashed, length_nameOf] at short
    exact absurd short (by decide)

end TemplateLint.FileTree
