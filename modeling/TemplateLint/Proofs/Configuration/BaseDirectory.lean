import TemplateLint.Configuration.Basic
import TemplateLint.Proofs.Path.Texts

/-!
# Commands and the base directory

Which commands are read from the base directory: the relative ones that name
something behind their first slash.  A command that ends with its first name
is left as it is, even if slashes and lone points stand behind the name.
-/

namespace TemplateLint

namespace Path

/-- The parts behind the first slash. -/
def partsBehind (path : Path) : List Path :=
  (parts path).tail

theorem exists_parts_eq_cons (path : Path) :
    ∃ first, parts path = first :: partsBehind path := by
  obtain ⟨first, rest, split⟩ :=
    List.exists_cons_of_ne_nil (parts_ne_nil path)
  exact ⟨first, by simp [partsBehind, split]⟩

theorem partsBehind_of_noSlash {path : Path} (noSlash : slash ∉ path) :
    partsBehind path = [] := by
  rw [partsBehind, parts_of_noSlash noSlash, List.tail_cons]

/-- Of a relative path the first part always counts, whether it is a name or a
point; behind it only names count. -/
theorem componentCount_of_relative {path : Path} (filled : path ≠ [])
    (relative : isAbsolute path = false) :
    componentCount path =
      1 + (partsBehind path).countP fun part => !isVoid part := by
  obtain ⟨first, split⟩ := exists_parts_eq_cons path
  have firstFilled : first ≠ [] := by
    have notEmpty := head_parts_ne_nil filled relative
    rw [split] at notEmpty
    simpa using notEmpty
  by_cases atPoint : first = [point]
  · simp [componentCount, relative, split, atPoint, isVoid]
  · have notVoid : isVoid first = false := by
      simp [isVoid, firstFilled, atPoint]
    simp [componentCount, relative, split, atPoint, notVoid, Nat.add_comm]

theorem join_ne_self {base path : Path} (filled : base ≠ [])
    (relative : isAbsolute path = false) : join base path ≠ path := by
  intro same
  have lengths := le_length_join base relative
  have someBytes := List.length_pos_iff.mpr filled
  rw [same] at lengths
  omega

end Path

namespace Configuration

variable {configuration : Configuration} {base : Path}

theorem program_of_relative
    (hasBase : configuration.baseDirectory = some base)
    (filled : configuration.command ≠ "")
    (relative : Path.isAbsolute configuration.command = false) :
    configuration.program =
      if ∃ part ∈ Path.partsBehind configuration.command,
          Path.isVoid part = false then
        Path.join base configuration.command
      else configuration.command := by
  have someBytes : Path.ofText configuration.command ≠ [] :=
    mt Path.ofText_eq_nil_iff.mp filled
  have more : 1 < Path.componentCount configuration.command ↔
      ∃ part ∈ Path.partsBehind configuration.command,
        Path.isVoid part = false := by
    rw [Path.componentCount_of_relative someBytes relative,
      Nat.lt_add_right_iff_pos, List.countP_pos_iff]
    simp
  simp [program, hasBase, relative, more]

theorem program_of_absolute
    (absolute : Path.isAbsolute configuration.command = true) :
    configuration.program = configuration.command := by
  unfold program
  split <;> simp [absolute]

/-- A relative command is read from the base directory exactly if it names
something behind its first slash; with only slashes and lone points behind its
first name it is left as it is.  So is a command that is absolute or has no
slash. -/
theorem program_by_slashes
    (hasBase : configuration.baseDirectory = some base)
    (filled : configuration.command ≠ "") :
    let command := configuration.command
    (Path.isAbsolute command = false → '/' ∈ command.toList →
      (∃ part ∈ Path.partsBehind command, Path.isVoid part = false) →
        configuration.program = Path.join base command) ∧
    (Path.isAbsolute command = false → '/' ∈ command.toList →
      (∀ part ∈ Path.partsBehind command, Path.isVoid part = true) →
        configuration.program = command ∧
        (base ≠ [] → configuration.program ≠ Path.join base command)) ∧
    (Path.isAbsolute command = true ∨ '/' ∉ command.toList →
      configuration.program = command) := by
  refine ⟨fun relative _ names => ?_, fun relative _ allVoid => ?_, ?_⟩
  · rw [program_of_relative hasBase filled relative, if_pos names]
  · have noNames : ¬∃ part ∈ Path.partsBehind configuration.command,
        Path.isVoid part = false := by
      rintro ⟨part, member, notVoid⟩
      rw [allVoid part member] at notVoid
      cases notVoid
    have unchanged : configuration.program = configuration.command := by
      rw [program_of_relative hasBase filled relative, if_neg noNames]
    refine ⟨unchanged, fun baseFilled => ?_⟩
    rw [unchanged]
    exact (Path.join_ne_self baseFilled relative).symm
  · rintro (absolute | noSlash)
    · exact program_of_absolute absolute
    · rw [← Path.slash_mem_ofText_iff] at noSlash
      have relative := Path.isAbsolute_of_noSlash noSlash
      rw [program_of_relative hasBase filled relative,
        Path.partsBehind_of_noSlash noSlash]
      simp

/-- A command in a directory, one with only a slash and a point behind it, and
an absolute one. -/
theorem program_by_slashes_of_each_kind :
    let below (command : String) : Configuration :=
      { command := command, baseDirectory := some "theme" }
    (below "bin//lint/").program = "theme/bin//lint/" ∧
      (below "lint/.").program = "lint/." ∧
      (below "/bin/lint").program = "/bin/lint" := by
  intro below
  have inDirectory := (@program_by_slashes
    (below "bin//lint/") "theme" rfl (by decide)).1
      (by decide) (by decide) (by decide)
  have pointBehind := (@program_by_slashes
    (below "lint/.") "theme" rfl (by decide)).2.1
      (by decide) (by decide) (by decide)
  have absolute := (@program_by_slashes
    (below "/bin/lint") "theme" rfl (by decide)).2.2
      (.inl (by decide))
  exact ⟨inDirectory.trans (by decide), pointBehind.1, absolute⟩

/-- A relative command with a slash at its end is not read from the base
directory. -/
theorem program_slash_at_end_not_joined :
    let configuration : Configuration :=
      { command := "tools/", baseDirectory := some "theme" }
    Path.isAbsolute configuration.command = false ∧
      '/' ∈ configuration.command.toList ∧
      configuration.program = "tools/" ∧
      configuration.program ≠
        Path.join "theme" configuration.command := by
  decide

end Configuration

end TemplateLint
