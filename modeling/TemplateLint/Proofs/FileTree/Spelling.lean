import TemplateLint.Proofs.FileTree.Lookup
import TemplateLint.Proofs.Path.Parent

/-!
# Spellings of a path

Parts that say nothing do not change where a path leads to as long as names
stand behind them.  So a path that is joined to a directory leads to the same
place however the end of the directory is spelled.
-/

namespace TemplateLint

namespace Position

/-! ## Parts that say nothing -/

/-- Nothing is reached from a directory that may not be entered. -/
theorem advance_of_not_entered {access : Access}
    {entries : List (Path × Node)} (above : List Node)
    (closed : access.entered = false) {parts : List Path}
    (someFilled : ∃ part ∈ parts, part ≠ []) :
    advance ⟨.directory access entries, above⟩ parts =
      .error .permissionDenied := by
  induction parts with
  | nil => simp at someFilled
  | cons part rest inductionHypothesis =>
      by_cases empty : part = []
      · obtain ⟨other, member, filled⟩ := someFilled
        have inRest := List.mem_of_ne_of_mem (empty ▸ filled) member
        simp [advance, empty, inductionHypothesis ⟨other, inRest, filled⟩]
      · simp [advance, empty, closed]

/-- A part that says nothing may need a directory to be entered, but so does
what stands behind it. -/
theorem advance_cons_void (position : Position) {part : Path}
    {back : List Path} (isVoid : Path.isVoid part = true)
    (someFilled : ∃ part ∈ back, part ≠ []) :
    position.advance (part :: back) = position.advance back := by
  obtain ⟨node, above⟩ := position
  cases node with
  | file _ _ | link _ =>
      -- a node that is no directory is met by the next part as well
      cases back with
      | nil => simp at someFilled
      | cons next others => simp [advance]
  | directory access entries =>
      by_cases closed : access.entered = false
      · rw [advance_of_not_entered above closed someFilled,
          advance_of_not_entered above closed]
        obtain ⟨other, member, filled⟩ := someFilled
        exact ⟨other, List.mem_cons_of_mem part member, filled⟩
      · simp [advance, isVoid, closed]

section Void

variable {back : List Path} (someFilled : ∃ part ∈ back, part ≠ [])

include someFilled

/-- The recursion is on the links: behind each of them the part still stands
between what the link puts before it and what stands behind it. -/
theorem follow_dropVoid {part : Path} (isVoid : Path.isVoid part = true)
    (links : Nat) (position : Position) (front : List Path) :
    position.follow links (front ++ part :: back) =
      position.follow links (front ++ back) := by
  rw [follow, follow, advance_append, advance_append]
  cases position.advance front with
  | error fault => rfl
  | ok progress =>
      cases progress with
      | arrived middle =>
          simp only [Except.bind, Progress.resume,
            middle.advance_cons_void isVoid someFilled]
      | atLink stopped target rest =>
          cases links with
          | zero => rfl
          | succ fewer =>
              have behindLink := follow_dropVoid isVoid fewer
                (stopped.origin target) (Path.parts target ++ rest)
              simp only [List.append_assoc] at behindLink
              simp only [Except.bind, Progress.resume, bind, behindLink]

theorem follow_dropVoids {voids : List Path}
    (allVoid : ∀ part ∈ voids, Path.isVoid part = true)
    (links : Nat) (position : Position) (front : List Path) :
    position.follow links (front ++ (voids ++ back)) =
      position.follow links (front ++ back) := by
  induction voids with
  | nil => rfl
  | cons part rest inductionHypothesis =>
      rw [List.forall_mem_cons] at allVoid
      obtain ⟨other, member, filled⟩ := someFilled
      have someBehind : ∃ part ∈ rest ++ back, part ≠ [] :=
        ⟨other, List.mem_append_right rest member, filled⟩
      rw [List.cons_append, follow_dropVoid someBehind allVoid.1,
        inductionHypothesis allVoid.2]

end Void

/-! ## Joined paths -/

section Join

variable {path : Path} (filled : path ≠ [])
  (relative : Path.isAbsolute path = false) (links : Nat)
  (position : Position) (directory : Path)

include filled relative

/-- A joined path is followed like the two paths one after the other. -/
theorem follow_join :
    position.follow links (Path.parts (Path.join directory path)) =
      position.follow links (Path.parts directory ++ Path.parts path) := by
  have someFilled := Path.exists_filled_part filled relative
  by_cases empty : directory = []
  · subst empty
    have void : Path.parts [] = [] ++ [[]] := rfl
    rw [Path.join_empty, void, List.append_assoc,
      follow_dropVoids someFilled (by simp [Path.isVoid]), List.nil_append]
  · obtain ⟨voids, allVoid, split⟩ :=
      Path.exists_parts_eq_stem_append directory
    rw [Path.parts_join empty relative, split, List.append_assoc,
      follow_dropVoids someFilled allVoid]

/-- The end of the directory need not be spelled out. -/
theorem follow_join_trimmed :
    position.follow links
        (Path.parts (Path.join (Path.trimmed directory) path)) =
      position.follow links (Path.parts (Path.join directory path)) := by
  by_cases empty : directory = []
  · rw [empty]
    rfl
  · obtain ⟨voids, allVoid, split⟩ :=
      Path.exists_stem_eq_stem_trimmed directory
    rw [Path.parts_join empty relative,
      Path.parts_join (Path.trimmed_ne_nil empty) relative, split,
      List.append_assoc,
      follow_dropVoids (Path.exists_filled_part filled relative) allVoid]

end Join

end Position

namespace FileTree

/-! ## Looking up paths that are spelled differently -/

theorem lookup_congr {left right : Path} (sameNul : 0 ∈ left ↔ 0 ∈ right)
    (leftFilled : left ≠ []) (rightFilled : right ≠ [])
    (leftShort : left.length ≤ longestPath)
    (rightShort : right.length ≤ longestPath)
    (sameStart : Path.isAbsolute left = Path.isAbsolute right)
    (sameWay : ∀ position : Position,
      position.follow mostLinks (Path.parts left) =
        position.follow mostLinks (Path.parts right))
    (tree : FileTree) : tree.lookup left = tree.lookup right := by
  have leftNotEmpty : left.isEmpty = false := by simpa using leftFilled
  have rightNotEmpty : right.isEmpty = false := by simpa using rightFilled
  simp only [lookup, sameNul, leftNotEmpty, rightNotEmpty, Position.origin,
    Nat.not_lt.mpr leftShort, Nat.not_lt.mpr rightShort, sameStart, sameWay]

/-- A path that is joined to a directory is looked up like one that is joined
to the directory without the slashes and lone points at its end. -/
theorem lookup_join_trimmed {directory path : Path}
    (noNul : 0 ∉ directory) (filled : path ≠ [])
    (relative : Path.isAbsolute path = false)
    (short : (Path.join directory path).length ≤ longestPath)
    (tree : FileTree) :
    tree.lookup (Path.join (Path.trimmed directory) path) =
      tree.lookup (Path.join directory path) := by
  by_cases empty : directory = []
  · rw [empty]
    rfl
  · have trimmedFilled := Path.trimmed_ne_nil empty
    obtain ⟨rest, split⟩ := Path.exists_eq_trimmed_append directory
    have trimmedNoNul : 0 ∉ Path.trimmed directory := by
      intro member
      rw [split] at noNul
      exact noNul (List.mem_append_left _ member)
    apply lookup_congr
    · rw [Path.mem_join_iff (by decide) relative,
        Path.mem_join_iff (by decide) relative]
      simp only [noNul, trimmedNoNul]
    · exact Path.join_ne_nil trimmedFilled relative
    · exact Path.join_ne_nil empty relative
    · exact Nat.le_trans (Path.length_join_trimmed_le directory relative)
        short
    · exact short
    · rw [Path.isAbsolute_join trimmedFilled relative,
        Path.isAbsolute_join empty relative, Path.isAbsolute_trimmed]
    · exact fun position => position.follow_join_trimmed filled relative
        mostLinks directory

end FileTree

end TemplateLint
