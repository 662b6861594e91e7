import TemplateLint.Proofs.FileTree.Spelling

/-!
# The files that a directory holds

Whether a directory holds a regular file of some name is a matter of its
entries and of what its links lead to.  A path to the file finds it exactly if
the path is short enough to be looked up.
-/

namespace TemplateLint

namespace Position

/-- Where a proper name leads from a position: to the link or to the other
node of that name. -/
theorem advance_name {position : Position} {progress : Progress}
    {name : Path} (proper : IsName name)
    (advanced : position.advance [name] = .ok progress) :
    ∃ access entries, position.node = .directory access entries ∧
      access.entered = true ∧
      ((∃ target, NameMap.get? name entries = some (.link target) ∧
        progress = .atLink position target []) ∨
      ∃ node, NameMap.get? name entries = some node ∧
        progress = .arrived ⟨node, position.node :: position.above⟩) := by
  obtain ⟨node, above⟩ := position
  cases node with
  | file content mode => simp [advance] at advanced
  | link target => simp [advance] at advanced
  | directory access entries =>
      by_cases enters : access.entered = true
      · refine ⟨access, entries, rfl, enters, ?_⟩
        rw [advance_cons_name proper enters] at advanced
        split at advanced
        · cases advanced
        · next target found =>
            cases advanced
            exact .inl ⟨target, found, rfl⟩
        · next node _ found =>
            cases advanced
            exact .inr ⟨node, found, rfl⟩
      · simp [advance, Path.ne_nil_of_isName proper, enters] at advanced

/-- What leads to an end with a name last leads to a directory that may be
entered and has an entry of that name. -/
theorem LeadsTo.before_name {links : Nat} {position last : Position}
    {front : List Path} {name : Path} (proper : IsName name)
    (leads : LeadsTo links position (front ++ [name]) last) :
    ∃ access entries above,
      LeadsTo links position front ⟨.directory access entries, above⟩ ∧
      access.entered = true ∧
      ((∃ target, NameMap.get? name entries = some (.link target)) ∨
        NameMap.get? name entries = some last.node) := by
  obtain ⟨⟨node, above⟩, fewer, leadsBefore, leadsBehind⟩ := leads.split
  cases leadsBehind with
  | arrives arrives =>
      obtain ⟨access, entries, isDirectory, enters, entry⟩ :=
        advance_name proper arrives
      cases isDirectory
      refine ⟨access, entries, above, leadsBefore, enters, ?_⟩
      rcases entry with ⟨_, _, atLink⟩ | ⟨node, found, arrived⟩
      · cases atLink
      · cases arrived
        exact .inr found
  | overLink stops _ =>
      obtain ⟨access, entries, isDirectory, enters, entry⟩ :=
        advance_name proper stops
      cases isDirectory
      refine ⟨access, entries, above, leadsBefore, enters, ?_⟩
      rcases entry with ⟨target, found, _⟩ | ⟨_, _, arrived⟩
      · exact .inl ⟨target, found⟩
      · cases arrived

end Position

namespace FileTree

/-- A path leads to a directory, even if the path is too long to be looked up.
The empty path leads to the working directory. -/
structure LeadsToDirectory (tree : FileTree) (path : Path) (access : Access)
    (entries : List (Path × Node)) : Prop where
  no_nul : 0 ∉ path
  leads : ∃ above, Position.LeadsTo mostLinks (tree.position.origin path)
    (Path.parts path) ⟨.directory access entries, above⟩

/-- A directory, which may be entered, holds a regular file of that name: its
entry is such a file, or a link with such a file at its end. -/
inductive HoldsFile (tree : FileTree) (directory name : Path) : Prop
  | file {access : Access} {entries : List (Path × Node)}
      {content : ByteArray} {mode : FileMode} :
      tree.LeadsToDirectory directory access entries →
      access.entered = true →
      NameMap.get? name entries = some (.file content mode) →
      mode.regular = true →
        HoldsFile tree directory name
  | link {access : Access} {entries : List (Path × Node)} {target : Path}
      {content : ByteArray} {mode : FileMode} {above : List Node} :
      tree.LeadsToDirectory directory access entries →
      access.entered = true →
      NameMap.get? name entries = some (.link target) →
      Position.LeadsTo mostLinks (tree.position.origin directory)
        (Path.parts directory ++ [name]) ⟨.file content mode, above⟩ →
      mode.regular = true →
        HoldsFile tree directory name

variable {tree : FileTree} {directory name : Path}

/-- A directory that can be looked up is led to. -/
theorem leadsToDirectory_of_lookup {access : Access}
    {entries : List (Path × Node)}
    (found : tree.lookup directory = .ok (.directory access entries)) :
    tree.LeadsToDirectory directory access entries := by
  obtain ⟨canFollow, _, leads⟩ :=
    (lookup_eq_ok_iff tree directory _).mp found
  exact ⟨canFollow.no_nul, leads⟩

theorem holdsFile_iff (proper : IsName name) :
    tree.HoldsFile directory name ↔
      0 ∉ directory ∧
      ∃ content mode above,
        Position.LeadsTo mostLinks (tree.position.origin directory)
          (Path.parts directory ++ [name]) ⟨.file content mode, above⟩ ∧
        mode.regular = true := by
  constructor
  · intro holds
    cases holds with
    | @file access entries content mode directoryLeads enters found regular =>
        obtain ⟨noNul, above, leads⟩ := directoryLeads
        have arrives : Position.advance ⟨.directory access entries, above⟩
            [name] = .ok (.arrived ⟨.file content mode,
              .directory access entries :: above⟩) := by
          rw [Position.advance_cons_name proper enters, found]
          rfl
        exact ⟨noNul, content, mode, _, leads.append arrives, regular⟩
    | link directoryLeads _ _ leads regular =>
        exact ⟨directoryLeads.no_nul, _, _, _, leads, regular⟩
  · rintro ⟨noNul, content, mode, above, leads, regular⟩
    obtain ⟨access, entries, around, leadsBefore, enters, entry⟩ :=
      leads.before_name proper
    have directoryLeads : tree.LeadsToDirectory directory access entries :=
      ⟨noNul, around, leadsBefore⟩
    rcases entry with ⟨target, found⟩ | found
    · exact .link directoryLeads enters found leads regular
    · exact .file directoryLeads enters found regular

theorem canFollow_join_iff (proper : IsName name) :
    Path.CanFollow (Path.join directory name) ↔ 0 ∉ directory := by
  by_cases empty : directory = []
  · subst empty
    have canFollow : Path.CanFollow name :=
      ⟨Path.ne_nil_of_isName proper, proper.no_nul⟩
    simp [canFollow]
  · constructor
    · intro canFollow
      have noNul := canFollow.no_nul
      rw [Path.mem_join_iff (by decide) (Path.isAbsolute_of_isName proper),
        not_or] at noNul
      exact noNul.1
    · exact fun noNul => Path.CanFollow.join ⟨empty, noNul⟩ proper

theorem origin_join (proper : IsName name) (position : Position) :
    position.origin (Path.join directory name) =
      position.origin directory := by
  have relative := Path.isAbsolute_of_isName proper
  rw [Position.origin, Position.origin]
  by_cases empty : directory = []
  · rw [empty, Path.join_empty, relative]
    rfl
  · rw [Path.isAbsolute_join empty relative]

/-- The path of a file that a directory holds leads to a file exactly if it is
short enough to be looked up. -/
theorem isFile_join_iff (proper : IsName name) :
    tree.isFile (Path.join directory name) = true ↔
      tree.HoldsFile directory name ∧
      (Path.join directory name).length ≤ longestPath := by
  have sameWay := Position.follow_join (Path.ne_nil_of_isName proper)
    (Path.isAbsolute_of_isName proper) mostLinks
    (tree.position.origin directory) directory
  rw [Path.parts_of_noSlash proper.no_slash] at sameWay
  simp only [isFile_eq_true_iff, holdsFile_iff proper, lookup_eq_ok_iff,
    canFollow_join_iff proper, origin_join proper,
    Position.leadsTo_iff_follow, sameWay]
  constructor
  · rintro ⟨content, mode, ⟨noNul, short, above, leads⟩, regular⟩
    exact ⟨⟨noNul, content, mode, above, leads, regular⟩, short⟩
  · rintro ⟨⟨noNul, content, mode, above, leads, regular⟩, short⟩
    exact ⟨content, mode, ⟨noNul, short, above, leads⟩, regular⟩

end FileTree

end TemplateLint
