import TemplateLint.Proofs.FileTree.Walk

/-!
# The files found in a directory

Every path that is found satisfies the test of the search, so that a file of a
directory never has an extension that is not linted.
-/

namespace TemplateLint

namespace FileTree

variable {tree : FileTree} {allowed : List String} {path found : Path}
  {paths : List Path}

theorem lookup_of_resolve
    (resolved : tree.resolve allowed path = .directory paths) :
    ∃ access entries,
      tree.lookup path = .ok (.directory access entries) ∧
      paths = Node.pathsBelow (tree.isLinted allowed) path
        (.directory access entries) := by
  unfold resolve at resolved
  split at resolved
  · cases resolved
  · next access entries found =>
      cases resolved
      exact ⟨access, entries, found, rfl⟩
  · cases resolved

/-- The files found in a directory are files with extensions of the
allow-list. -/
theorem isLinted_of_mem_directory
    (resolved : tree.resolve allowed path = .directory paths)
    (member : found ∈ paths) : tree.isLinted allowed found = true := by
  obtain ⟨access, entries, _, isPaths⟩ := lookup_of_resolve resolved
  rw [isPaths, Node.pathsBelow_eq] at member
  exact (List.mem_filter.mp member).2

theorem extensionOf_mem_of_mem_directory
    (resolved : tree.resolve allowed path = .directory paths)
    (member : found ∈ paths) : extensionOf found.shown ∈ allowed := by
  have linted := isLinted_of_mem_directory resolved member
  simp only [isLinted, Bool.and_eq_true, decide_eq_true_eq] at linted
  exact linted.2

/-- A file that is found in a directory stands for itself. -/
theorem resolve_eq_file_of_mem_directory
    (resolved : tree.resolve allowed path = .directory paths)
    (member : found ∈ paths) : tree.resolve allowed found = .file := by
  have linted := isLinted_of_mem_directory resolved member
  simp only [isLinted, Bool.and_eq_true] at linted
  obtain ⟨content, mode, leads, _⟩ :=
    (isFile_eq_true_iff tree found).mp linted.1
  rw [resolve, leads]

end FileTree

end TemplateLint
