import Mathlib.Data.List.Basic
import TemplateLint.Proofs.FileTree.Contents

/-!
# Directories within directories

What a directory stands for is made of what the directories in it stand for.
The walk from a directory meets all files of one below it in a row, in the
order and with the paths of the walk that begins there.  A path that cannot be
looked up stands for nothing, and then nothing below it is found either; nor is
anything found below a directory that cannot be listed.
-/

namespace TemplateLint

namespace Node

/-! ## The walk of a directory below -/

theorem visibleLeaves_eq_flatMap (entries : List (Path × Node)) :
    visibleLeaves entries =
      (entries.filter fun entry => !isHidden entry.1).flatMap
        fun entry => entry.2.leaves.map (entry.1 :: ·) := by
  induction entries with
  | nil => simp [visibleLeaves]
  | cons entry rest inductionHypothesis =>
      obtain ⟨name, node⟩ := entry
      rw [visibleLeaves, inductionHypothesis]
      by_cases hidden : isHidden name = true <;> simp [hidden]

theorem visibleLeaves_append (front back : List (Path × Node)) :
    visibleLeaves (front ++ back) =
      visibleLeaves front ++ visibleLeaves back := by
  simp [visibleLeaves_eq_flatMap]

/-- The leaves behind some names stand in a row, as the leaves of the node that
the names lead to. -/
theorem leaves_eq_append {node inner : Node} {names : List Path}
    (wellFormed : node.WellFormed)
    (visible : ∀ name ∈ names, isHidden name = false)
    (descends : node.descend? Access.listed names = some inner) :
    ∃ before after,
      node.leaves = before ++ inner.leaves.map (names ++ ·) ++ after ∧
      ∀ other ∈ before ++ after, ¬names <+: other := by
  induction names generalizing node with
  | nil =>
      have same : node = inner := by simpa using descends
      exact ⟨[], [], by simp [same], by simp⟩
  | cons name rest inductionHypothesis =>
      obtain ⟨access, entries, next, rfl, listed, found, descendsOn⟩ :=
        (descend?_cons_eq_some_iff _ _ _ name rest).mp descends
      rw [List.forall_mem_cons] at visible
      obtain ⟨before, after, split, apart⟩ := inductionHypothesis
        (wellFormed_of_get? wellFormed found).2 visible.2 descendsOn
      obtain ⟨front, back, rfl⟩ :=
        List.append_of_mem (NameMap.mem_of_get? found)
      -- the names of the other entries differ, as names increase
      have increasing := ((wellFormed_directory_iff _ _).mp wellFormed).1
      have namesDiffer : ∀ entry ∈ front ++ back, entry.1 ≠ name := by
        rw [NameMap.Increasing, List.pairwise_append] at increasing
        obtain ⟨_, fromName, acrossName⟩ := increasing
        intro entry member
        rcases List.mem_append.mp member with inFront | inBack
        · have smaller := acrossName entry inFront _ List.mem_cons_self
          exact fun equal => List.lt_irrefl name (equal ▸ smaller)
        · have greater := (List.pairwise_cons.mp fromName).1 entry inBack
          exact fun equal => List.lt_irrefl name (equal ▸ greater)
      have fromOthers : ∀ other ∈ visibleLeaves (front ++ back),
          ¬name :: rest <+: other := by
        intro other member isPrefix
        obtain ⟨first, node, behind, rfl, inEntries, _⟩ :=
          (mem_visibleLeaves_iff _ other).mp member
        exact namesDiffer _ inEntries (List.cons_prefix_cons.mp isPrefix).1.symm
      have fromSame : ∀ other ∈ before ++ after,
          ¬name :: rest <+: name :: other := fun other member isPrefix =>
        apart other member (List.cons_prefix_cons.mp isPrefix).2
      refine ⟨visibleLeaves front ++ before.map (name :: ·),
        after.map (name :: ·) ++ visibleLeaves back, ?_, ?_⟩
      · rw [leaves, if_pos listed, visibleLeaves_append, visibleLeaves, split,
          visible.1]
        simp [Function.comp_def]
      · intro other member
        rw [List.append_assoc, ← List.append_assoc (before.map _),
          ← List.map_append, List.mem_append, List.mem_append] at member
        rcases member with inFront | inMiddle | inBack
        · exact fromOthers other (by simp [visibleLeaves_append, inFront])
        · obtain ⟨behind, inSame, rfl⟩ := List.mem_map.mp inMiddle
          exact fromSame behind inSame
        · exact fromOthers other (by simp [visibleLeaves_append, inBack])

/-- The paths of a directory are those of its entries that are not hidden, one
entry after the other. -/
theorem visiblePaths_eq_flatMap (keep : Path → Bool) (base : Path)
    (entries : List (Path × Node)) :
    visiblePaths keep base entries =
      (entries.filter fun entry => !isHidden entry.1).flatMap
        fun entry => entry.2.pathsBelow keep (Path.join base entry.1) := by
  induction entries with
  | nil => simp
  | cons entry rest inductionHypothesis =>
      obtain ⟨name, node⟩ := entry
      rw [visiblePaths, inductionHypothesis]
      by_cases hidden : isHidden name = true <;> simp [hidden]

section Directory

variable {access innerAccess : Access} {entries inner : List (Path × Node)}
  {names : List Path} {root : Path}

/-- Names behind a directory are proper names, at least one each. -/
theorem isName_of_mem_leaves
    (wellFormed : (directory access entries).WellFormed)
    (member : names ∈ (directory access entries).leaves) :
    names ≠ [] ∧ ∀ name ∈ names, IsName name := by
  obtain ⟨_, last, descends, leaf⟩ :=
    (mem_leaves_iff wellFormed names).mp member
  refine ⟨?_, isName_of_descend? wellFormed descends⟩
  rintro rfl
  cases descends
  cases leaf

/-- Which leaves have paths below the path of some names. -/
theorem isBelow_iff_of_mem_leaves (filled : root ≠ [])
    (wellFormed : (directory access entries).WellFormed)
    (someName : names ≠ []) (proper : ∀ name ∈ names, IsName name)
    {others : List Path}
    (member : others ∈ (directory access entries).leaves) :
    Path.IsBelow (Path.below root names) (Path.below root others) ↔
      ∃ rest, rest ≠ [] ∧ others = names ++ rest := by
  obtain ⟨someOther, othersProper⟩ := isName_of_mem_leaves wellFormed member
  exact Path.isBelow_below_iff filled someName proper someOther othersProper

/-- The paths behind some names stand in a row in the walk from the root. -/
theorem pathsBelow_eq_append (keep : Path → Bool) (filled : root ≠ [])
    (wellFormed : (directory access entries).WellFormed)
    (someName : names ≠ [])
    (visible : ∀ name ∈ names, isHidden name = false)
    (descends : (directory access entries).descend? Access.listed names =
      some (directory innerAccess inner)) :
    ∃ before after,
      (directory access entries).pathsBelow keep root =
        before ++ (directory innerAccess inner).pathsBelow keep
          (Path.below root names) ++ after ∧
      (∀ found ∈ (directory innerAccess inner).pathsBelow keep
          (Path.below root names),
        Path.IsBelow (Path.below root names) found) ∧
      ∀ found ∈ before ++ after,
        ¬Path.IsBelow (Path.below root names) found := by
  obtain ⟨before, after, split, apart⟩ :=
    leaves_eq_append wellFormed visible descends
  have proper := isName_of_descend? wellFormed descends
  refine ⟨(before.map (Path.below root)).filter keep,
    (after.map (Path.below root)).filter keep, ?_, ?_, ?_⟩
  · simp [pathsBelow_eq, split, Function.comp_def,
      Path.below_append]
  · intro found member
    rw [pathsBelow_eq] at member
    obtain ⟨rest, inLeaves, rfl⟩ :=
      List.mem_map.mp (List.mem_filter.mp member).1
    have innerWellFormed := wellFormed_of_descend? wellFormed descends
    have someRest := (isName_of_mem_leaves innerWellFormed inLeaves).1
    rw [← Path.below_append]
    refine (isBelow_iff_of_mem_leaves filled wellFormed someName proper
      ?_).mpr ⟨rest, someRest, rfl⟩
    rw [split]
    simp [inLeaves]
  · intro found member isBelow
    rw [← List.filter_append, ← List.map_append] at member
    obtain ⟨others, inOthers, rfl⟩ :=
      List.mem_map.mp (List.mem_filter.mp member).1
    have inLeaves : others ∈ (directory access entries).leaves := by
      rw [split, List.append_assoc, List.mem_append, List.mem_append]
      rcases List.mem_append.mp inOthers with inBefore | inAfter
      · exact .inl inBefore
      · exact .inr (.inr inAfter)
    obtain ⟨rest, _, rfl⟩ := (isBelow_iff_of_mem_leaves filled wellFormed
      someName proper inLeaves).mp isBelow
    exact apart _ inOthers (List.prefix_append names rest)

/-- No path lies below a directory that stands behind one which cannot be
listed. -/
theorem not_isBelow_of_unlisted (keep : Path → Bool) (filled : root ≠ [])
    (wellFormed : (directory access entries).WellFormed)
    (someName : names ≠ []) (proper : ∀ name ∈ names, IsName name)
    (unlisted : (directory access entries).descend? Access.listed names =
      none) :
    ∀ found ∈ (directory access entries).pathsBelow keep root,
      ¬Path.IsBelow (Path.below root names) found := by
  intro found member isBelow
  rw [pathsBelow_eq] at member
  obtain ⟨others, inLeaves, rfl⟩ :=
    List.mem_map.mp (List.mem_filter.mp member).1
  obtain ⟨rest, _, rfl⟩ := (isBelow_iff_of_mem_leaves filled wellFormed
    someName proper inLeaves).mp isBelow
  obtain ⟨_, last, descends, _⟩ :=
    (mem_leaves_iff wellFormed _).mp inLeaves
  rw [descend?_append, unlisted, Option.bind_none] at descends
  cases descends

end Directory

end Node

/-- The paths that a directory stands for; none for anything else. -/
def Target.paths : Target → List Path
  | .directory paths => paths
  | _ => []

namespace FileTree

/-- What an entry adds to the paths of its directory: all that it stands for if
it is a directory itself, and otherwise its own path, if it leads to a file
with an extension of the allow-list. -/
def pathsOfEntry (tree : FileTree) (allowed : List String) (root : Path)
    (entry : Path × Node) : List Path :=
  let path := Path.join root entry.1
  match entry.2 with
  | .directory _ _ => (tree.resolve allowed path).paths
  | _ =>
      if tree.isFile path = true ∧ extensionOf path.shown ∈ allowed then
        [path]
      else []

variable {tree : FileTree} {root : Path} {access innerAccess : Access}
  {entries inner : List (Path × Node)} {names : List Path}

/-! ## What a directory below stands for -/

theorem resolve_of_no_lookup {path : Path}
    (nowhere : ∀ node, tree.lookup path ≠ .ok node)
    (allowed : List String) : tree.resolve allowed path = .missing := by
  unfold resolve
  split
  · rfl
  · next found => exact absurd found (nowhere _)
  · next found => exact absurd found (nowhere _)

/-- Nothing is found below a path that cannot be looked up. -/
theorem pathsBelow_of_no_lookup (allowed : List String) (filled : root ≠ [])
    (noSlash : root.getLast? ≠ some Path.slash)
    (wellFormed : (Node.directory access entries).WellFormed)
    (nowhere : ∀ node, tree.lookup root ≠ .ok node) :
    (Node.directory access entries).pathsBelow (tree.isLinted allowed) root =
      [] := by
  rw [Node.pathsBelow_eq, List.filter_eq_nil_iff]
  intro path member linted
  obtain ⟨names, inLeaves, rfl⟩ := List.mem_map.mp member
  have proper := (Node.isName_of_mem_leaves wellFormed inLeaves).2
  rw [isLinted, Bool.and_eq_true] at linted
  obtain ⟨_, _, found, _⟩ := (isFile_eq_true_iff tree _).mp linted.1
  obtain ⟨before, leads⟩ := exists_lookup_of_below filled noSlash proper found
  exact nowhere before leads

section Below

variable {allows : Access → Bool}
  (resolved : tree.lookup root = .ok (.directory access entries))
  (descends : (Node.directory access entries).descend? allows names =
    some (.directory innerAccess inner))

include resolved descends

/-- A directory below stands for the paths of the walk that begins there, if
its own path can be looked up. -/
theorem resolve_below
    (entered : (Node.directory access entries).descend? Access.entered names ≠
      none)
    (short : (Path.below root names).length ≤ longestPath)
    (allowed : List String) :
    tree.resolve allowed (Path.below root names) =
      .directory ((Node.directory innerAccess inner).pathsBelow
        (tree.isLinted allowed) (Path.below root names)) := by
  obtain ⟨last, leads⟩ := Option.ne_none_iff_exists'.mp entered
  cases Node.descend?_unique descends leads
  rw [resolve, lookup_below resolved leads (by simp) short]

/-- The path of a directory below can be looked up only if it is short enough
and all directories on the way may be entered. -/
theorem no_lookup_below
    (hindered : longestPath < (Path.below root names).length ∨
      (Node.directory access entries).descend? Access.entered names = none)
    (node : Node) : tree.lookup (Path.below root names) ≠ .ok node := by
  rcases hindered with long | closed
  · exact fun found => absurd (short_of_lookup found) (Nat.not_le.mpr long)
  · exact lookup_below_of_closed resolved descends closed node

/-- A directory below that cannot be looked up stands for nothing. -/
theorem resolve_below_of_hindered (someName : names ≠ [])
    (hindered : longestPath < (Path.below root names).length ∨
      (Node.directory access entries).descend? Access.entered names = none)
    (allowed : List String) :
    tree.resolve allowed (Path.below root names) = .missing ∧
      (Node.directory innerAccess inner).pathsBelow (tree.isLinted allowed)
        (Path.below root names) = [] := by
  have wellFormed := wellFormed_of_lookup resolved
  have filled := (canFollow_of_lookup resolved).filled
  have proper := Node.isName_of_descend? wellFormed descends
  have nowhere := no_lookup_below resolved descends hindered
  exact ⟨resolve_of_no_lookup nowhere allowed,
    pathsBelow_of_no_lookup allowed (Path.below_ne_nil filled proper)
      (Path.not_slash_at_end_below filled someName proper)
      (Node.wellFormed_of_descend? wellFormed descends) nowhere⟩

end Below

/-! ## What a directory is made of -/

theorem pathsBelow_eq_pathsOfEntry
    (resolved : tree.lookup root = .ok (.directory access entries))
    (allowed : List String) {entry : Path × Node}
    (member : entry ∈ entries) :
    entry.2.pathsBelow (tree.isLinted allowed) (Path.join root entry.1) =
      tree.pathsOfEntry allowed root entry := by
  obtain ⟨name, node⟩ := entry
  have ofLeaf : ∀ path : Path,
      (if tree.isLinted allowed path = true then [path] else []) =
        if tree.isFile path = true ∧ extensionOf path.shown ∈ allowed then
          [path]
        else [] := by
    intro path
    simp only [isLinted, Bool.and_eq_true, decide_eq_true_eq]
  cases node with
  | file content mode =>
      rw [Node.pathsBelow]
      exact ofLeaf _
  | link target =>
      rw [Node.pathsBelow]
      exact ofLeaf _
  | directory innerAccess inner =>
      have increasing := ((Node.wellFormed_directory_iff access entries).mp
        (wellFormed_of_lookup resolved)).1
      have descends : (Node.directory access entries).descend?
          (fun _ => true) [name] = some (.directory innerAccess inner) := by
        simp [Node.descend?, NameMap.get?_of_mem increasing member]
      rw [pathsOfEntry]
      by_cases hindered : longestPath < (Path.below root [name]).length ∨
          (Node.directory access entries).descend? Access.entered [name] =
            none
      · obtain ⟨missing, nothing⟩ := resolve_below_of_hindered resolved
          descends (List.cons_ne_nil name []) hindered allowed
        rw [Path.below_cons, Path.below_nil] at missing nothing
        simp only [missing, nothing, Target.paths]
      · rw [not_or, Nat.not_lt] at hindered
        have isDirectory := resolve_below resolved descends hindered.2
          hindered.1 allowed
        rw [Path.below_cons, Path.below_nil] at isDirectory
        simp only [isDirectory, Target.paths]

/-- What a directory stands for, with what the directories below it stand for:
each of them has its own paths in a row, spelled in the same way, but nothing
at all if its path cannot be looked up, or if a directory before it cannot be
listed.  Entry by entry, in the order of the bytes of their names, the
directories and files in it make up the whole. -/
theorem resolve_by_subdirectories
    (resolved : tree.lookup root = .ok (.directory access entries))
    (allowed : List String) :
    let directory := Node.directory access entries
    ∃ paths, tree.resolve allowed root = .directory paths ∧
      (∀ names innerAccess inner, names ≠ [] →
        (∀ name ∈ names, isHidden name = false) →
        directory.descend? (fun _ => true) names =
          some (.directory innerAccess inner) →
        let path := Path.below root names
        ∃ before segment after, paths = before ++ segment ++ after ∧
          (∀ found ∈ segment, Path.IsBelow path found) ∧
          (∀ found ∈ before ++ after, ¬Path.IsBelow path found) ∧
          (path.length ≤ longestPath →
            directory.descend? Access.full names ≠ none →
              tree.resolve allowed path = .directory segment) ∧
          (longestPath < path.length ∨
            directory.descend? Access.entered names = none →
              tree.resolve allowed path = .missing ∧ segment = []) ∧
          (directory.descend? Access.listed names = none → segment = [])) ∧
      (entries.map Prod.fst).Pairwise (· < ·) ∧
      paths = if access.listed then
        (entries.filter fun entry => !isHidden entry.1).flatMap
          (tree.pathsOfEntry allowed root)
      else [] := by
  intro directory
  have wellFormed := wellFormed_of_lookup resolved
  have filled := (canFollow_of_lookup resolved).filled
  refine ⟨directory.pathsBelow (tree.isLinted allowed) root, ?_, ?_, ?_, ?_⟩
  · rw [resolve, resolved]
  · intro names innerAccess inner someName visible descends path
    cases listed : directory.descend? Access.listed names with
    | none =>
        have proper := Node.isName_of_descend? wellFormed descends
        have apart := Node.not_isBelow_of_unlisted (tree.isLinted allowed)
          filled wellFormed someName proper listed
        refine ⟨directory.pathsBelow (tree.isLinted allowed) root, [], [],
          by simp, by simp, by simpa using apart, fun _ full => ?_,
          fun hindered => ⟨(resolve_below_of_hindered resolved descends
            someName hindered allowed).1, rfl⟩, fun _ => rfl⟩
        obtain ⟨last, leads⟩ := Option.ne_none_iff_exists'.mp full
        have leadsListed := ((Node.descend?_and_iff _ _).mp leads).1
        cases listed.symm.trans leadsListed
    | some last =>
        cases Node.descend?_unique descends listed
        obtain ⟨before, after, split, below, apart⟩ :=
          Node.pathsBelow_eq_append (tree.isLinted allowed) filled wellFormed
            someName visible listed
        refine ⟨before, _, after, split, below, apart, fun short full => ?_,
          fun hindered => resolve_below_of_hindered resolved descends
            someName hindered allowed, fun none => by cases none⟩
        obtain ⟨last, leads⟩ := Option.ne_none_iff_exists'.mp full
        have entered := ((Node.descend?_and_iff _ _).mp leads).2
        exact resolve_below resolved descends (by rw [entered]; simp) short
          allowed
  · have increasing := ((Node.wellFormed_directory_iff _ _).mp wellFormed).1
    rw [List.pairwise_map]
    exact increasing
  · rw [Node.pathsBelow]
    by_cases listed : access.listed = true
    · rw [if_pos listed, if_pos listed, Node.visiblePaths_eq_flatMap]
      refine List.flatMap_congr fun entry member => ?_
      exact pathsBelow_eq_pathsOfEntry resolved allowed
        (List.mem_filter.mp member).1
    · rw [if_neg listed, if_neg listed]

/-- A directory of two directories, one within the other, between two files,
and of one that may not be entered, reached over a link and a slash too
many. -/
theorem resolve_by_subdirectories_over_link :
    let tree := (((((((FileTree.empty.putFile ".site/a.md"
      ByteArray.empty).putFile ".site/pages/deep/c.md"
        ByteArray.empty).putFile ".site/pages/b.md" ByteArray.empty).putFile
          ".site/x.md" ByteArray.empty).putFile ".site/pages.md"
            ByteArray.empty).putFile ".site/locked/d.md"
              ByteArray.empty).putDirectory ".site/locked"
                { entered := false }).putLink "theme" "/work/.site"
    let paths : List Path := ["theme//a.md", "theme//pages/b.md",
      "theme//pages/deep/c.md", "theme//pages.md", "theme//x.md"]
    tree.resolve ["md"] "theme//" = .directory paths ∧
      ∃ before segment after, paths = before ++ segment ++ after ∧
        (∀ found ∈ segment, Path.IsBelow "theme//pages" found) ∧
        (∀ found ∈ before ++ after, ¬Path.IsBelow "theme//pages" found) ∧
        tree.resolve ["md"] "theme//pages" = .directory segment := by
  intro tree paths
  have isPaths : tree.resolve ["md"] "theme//" = .directory paths := by
    decide +kernel
  have opened : ((tree.lookup "theme//").toOption.bind fun node =>
      (node.descend? Access.full ["pages"]).map Node.isLeaf) =
        some false := by
    decide +kernel
  obtain ⟨access, entries, resolved, _⟩ := lookup_of_resolve isPaths
  obtain ⟨found, isFound, segments, _⟩ :=
    resolve_by_subdirectories resolved ["md"]
  cases isPaths.symm.trans isFound
  refine ⟨isPaths, ?_⟩
  rw [resolved] at opened
  cases full : (Node.directory access entries).descend? Access.full
      ["pages"] with
  | none => simp [Except.toOption, full] at opened
  | some node =>
      cases node with
      | directory innerAccess inner =>
          obtain ⟨before, segment, after, split, below, apart, resolves, _⟩ :=
            segments ["pages"] innerAccess inner (by simp) (by decide +kernel)
              (Node.descend?_of_allowed full)
          exact ⟨before, segment, after, split, below, apart,
            resolves (by decide) (by rw [full]; simp)⟩
      | file _ _ | link _ =>
          simp [Except.toOption, full, Node.isLeaf] at opened

/-! ## Directories with paths that are too long -/

/-- A directory with an empty directory that has a long name. -/
def longDirectory : FileTree :=
  FileTree.empty.putDirectory ("d" ++ Path.slash :: Path.ofText (nameOf 247))

theorem lookup_longDirectory :
    longDirectory.lookup "d" =
      .ok (.directory {} [(nameOf 247, .directory {} [])]) := by
  rw [longDirectory, putDirectory]
  exact lookup_place (by decide) (isName_nameOf (by decide)) _

/-- With enough slashes behind the path of its directory, a directory with a
long name cannot be looked up. -/
theorem resolve_misses_long_subdirectory :
    let root := slashed 3900
    let name : Path := nameOf 247
    ∃ access entries,
      longDirectory.lookup root = .ok (.directory access entries) ∧
      isHidden name = false ∧
      (Node.directory access entries).descend? Access.full [name] =
        some (.directory {} []) ∧
      longDirectory.resolve defaultExtensions root = .directory [] ∧
      ∀ paths, longDirectory.resolve defaultExtensions
        (Path.below root [name]) ≠ .directory paths := by
  intro root name
  have resolved : longDirectory.lookup root =
      .ok (.directory {} [(name, .directory {} [])]) :=
    lookup_append_slashes lookup_longDirectory 3900 (by decide)
  have visible : isHidden name = false := isHidden_nameOf 246
  have long : longestPath < (Path.below root [name]).length := by
    rw [below_slashed (isName_nameOf (by decide)) 3899, List.length_append,
      length_slashed, length_nameOf]
    decide
  refine ⟨_, _, resolved, visible, ?_, ?_, fun paths => ?_⟩
  · simp [Node.descend?, NameMap.get?_cons, Access.full, name]
  · rw [resolve, resolved]
    simp [Node.pathsBelow, Node.visiblePaths]
  · have nowhere : ∀ node,
        longDirectory.lookup (Path.below root [name]) ≠ .ok node :=
      fun node found =>
        absurd (short_of_lookup found) (Nat.not_le.mpr long)
    rw [resolve_of_no_lookup nowhere]
    simp

end FileTree

end TemplateLint
