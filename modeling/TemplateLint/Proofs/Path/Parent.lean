import TemplateLint.Proofs.Path

/-!
# The directory of a joined path

Without its last component, a path that a name has been joined to is that path
again, but for the slashes and lone points at its end.  They are parts that say
nothing, so that whatever is joined next has the same parts that say something.
-/

namespace TemplateLint.Path

/-! ## Parts at the end -/

theorem stem_append_slash (path : Path) :
    stem (path ++ [slash]) = parts path := by
  have slashed : (path ++ [slash]).getLast? = some slash := by simp
  rw [stem, if_pos slashed, parts_append_slash, List.dropLast_concat]

theorem stem_append_point (path : Path) :
    stem (path ++ [slash, point]) = parts path ++ [[point]] := by
  have noSlash : (path ++ [slash, point]).getLast? ≠ some slash := by
    simp [List.getLast?_append, slash, point]
  rw [stem, if_neg noSlash]
  exact parts_append path [point]

/-- A slash at the end of a path adds a part that says nothing. -/
theorem exists_parts_eq_stem_append (path : Path) :
    ∃ voids, (∀ part ∈ voids, isVoid part = true) ∧
      parts path = stem path ++ voids := by
  by_cases slashed : path.getLast? = some slash
  · exact ⟨[[]], by simp [isVoid], parts_of_slash slashed⟩
  · exact ⟨[], by simp, by simp [stem, if_neg slashed]⟩

/-! ## Trimming a path -/

/-- A path without the slashes and lone points at its end.  The root stays. -/
def trimmed (path : Path) : Path :=
  (trimBackwards path.reverse).reverse

theorem trimBackwards_suffix (path : Path) : trimBackwards path <:+ path := by
  fun_induction trimBackwards path with
  | case1 | case2 | case4 => exact List.suffix_refl _
  | case3 byte next rest _ inductionHypothesis =>
      exact inductionHypothesis.trans (List.suffix_cons _ _)

theorem trimBackwards_ne_nil {path : Path} (filled : path ≠ []) :
    trimBackwards path ≠ [] := by
  fun_induction trimBackwards path with
  | case1 => exact absurd rfl filled
  | case2 | case4 => simp
  | case3 byte next rest _ inductionHypothesis =>
      exact inductionHypothesis (by simp)

/-- Nothing is trimmed away where no slash stands at the end, nor one before a
lone point. -/
theorem trimBackwards_eq_self {path : Path}
    (noSlash : ∀ rest, path ≠ slash :: rest)
    (noPoint : ∀ rest, path ≠ point :: slash :: rest) :
    trimBackwards path = path := by
  fun_cases trimBackwards path with
  | case1 | case2 | case4 => rfl
  | case3 byte next rest trims =>
      rcases trims with rfl | ⟨rfl, rfl⟩
      · exact absurd rfl (noSlash _)
      · exact absurd rfl (noPoint _)

/-- A slash at the end of a path is trimmed away. -/
theorem trimBackwards_slash {path : Path} (filled : path ≠ []) :
    trimBackwards (slash :: path) = trimBackwards path := by
  obtain ⟨next, rest, rfl⟩ := List.exists_cons_of_ne_nil filled
  rw [trimBackwards, if_pos (.inl rfl)]

/-- What is trimmed away are parts that say nothing. -/
theorem exists_stem_eq_stem_trimBackwards (path : Path) :
    ∃ voids, (∀ part ∈ voids, isVoid part = true) ∧
      stem path.reverse = stem (trimBackwards path).reverse ++ voids := by
  fun_induction trimBackwards path with
  | case1 | case2 | case4 => exact ⟨[], by simp, by simp⟩
  | case3 byte next rest trims inductionHypothesis =>
      obtain ⟨voids, allVoid, split⟩ := inductionHypothesis
      rcases trims with rfl | ⟨rfl, rfl⟩
      · obtain ⟨behind, behindVoid, whole⟩ :=
          exists_parts_eq_stem_append (next :: rest).reverse
        refine ⟨voids ++ behind, ?_, ?_⟩
        · rw [List.forall_mem_append]
          exact ⟨allVoid, behindVoid⟩
        · rw [List.reverse_cons, stem_append_slash, whole, split,
            List.append_assoc]
      · rw [List.reverse_cons, stem_append_slash] at split
        refine ⟨voids ++ [[point]], ?_, ?_⟩
        · rw [List.forall_mem_append]
          exact ⟨allVoid, by simp [isVoid]⟩
        · rw [List.reverse_cons, List.reverse_cons, List.append_assoc]
          exact (stem_append_point rest.reverse).trans
            (by rw [split, List.append_assoc])

theorem exists_stem_eq_stem_trimmed (path : Path) :
    ∃ voids, (∀ part ∈ voids, isVoid part = true) ∧
      stem path = stem (trimmed path) ++ voids := by
  have split := exists_stem_eq_stem_trimBackwards path.reverse
  rwa [List.reverse_reverse] at split

theorem trimmed_ne_nil {path : Path} (filled : path ≠ []) :
    trimmed path ≠ [] := by
  have someBytes : path.reverse ≠ [] := by simpa using filled
  simpa [trimmed] using trimBackwards_ne_nil someBytes

/-- A path begins with what is left of it. -/
theorem exists_eq_trimmed_append (path : Path) :
    ∃ rest, path = trimmed path ++ rest := by
  obtain ⟨front, split⟩ := trimBackwards_suffix path.reverse
  refine ⟨front.reverse, ?_⟩
  rw [trimmed, ← List.reverse_append, split, List.reverse_reverse]

theorem isAbsolute_trimmed (path : Path) :
    isAbsolute (trimmed path) = isAbsolute path := by
  by_cases empty : path = []
  · subst empty
    rfl
  · obtain ⟨rest, split⟩ := exists_eq_trimmed_append path
    have begins := isAbsolute_append (trimmed_ne_nil empty) rest
    rw [← split] at begins
    exact begins.symm

/-- Trimming makes no joined path longer. -/
theorem length_join_trimmed_le (directory : Path) {path : Path}
    (relative : isAbsolute path = false) :
    (join (trimmed directory) path).length ≤
      (join directory path).length := by
  by_cases same : trimmed directory = directory
  · simp [same]
  · -- what is trimmed away makes up for a slash that joining puts in
    obtain ⟨rest, split⟩ := exists_eq_trimmed_append directory
    have someRest : rest.length ≠ 0 := by
      rw [ne_eq, List.length_eq_zero_iff]
      rintro rfl
      rw [List.append_nil] at split
      exact same split.symm
    have lengths := congrArg List.length split
    rw [List.length_append] at lengths
    have trimmedLength := length_join_le (trimmed directory) relative
    have wholeLength := le_length_join directory relative
    omega

/-! ## The path before a name -/

variable {name : Path}

/-- Nothing is trimmed away from a name at the end. -/
theorem trimBackwards_append_of_isName (proper : IsName name)
    (path : Path) :
    trimBackwards (name.reverse ++ path) = name.reverse ++ path := by
  have noSlash : slash ∉ name.reverse := by simpa using proper.no_slash
  cases reversed : name.reverse with
  | nil =>
      exact absurd (List.reverse_eq_nil_iff.mp reversed)
        (ne_nil_of_isName proper)
  | cons last others =>
      rw [reversed] at noSlash
      apply trimBackwards_eq_self
      · rintro rest equal
        cases equal
        exact noSlash List.mem_cons_self
      · rintro rest equal
        cases others with
        | nil =>
            -- the name would be a lone point
            cases equal
            have alone : name = [point] := List.reverse_eq_iff.mp reversed
            have notVoid := proper.not_void
            simp [alone, isVoid] at notVoid
        | cons second further =>
            cases equal
            exact noSlash (by simp)

theorem parent?_append (proper : IsName name) {front : Path}
    (ending : front = [] ∨ front.getLast? = some slash) :
    parent? (front ++ name) = some (trimmed front) := by
  have noSlash : slash ∉ name.reverse := by simpa using proper.no_slash
  have someBytes : name.reverse ≠ [] := by
    simpa using ne_nil_of_isName proper
  have solid : ∀ byte ∈ name.reverse, decide (byte ≠ slash) = true := by
    intro byte member
    exact decide_eq_true fun equal => noSlash (equal ▸ member)
  have behindName : (name.reverse ++ front.reverse).dropWhile (· ≠ slash) =
      front.reverse := by
    rw [List.dropWhile_append_of_pos solid]
    rcases ending with rfl | slashed
    · rfl
    · obtain ⟨before, rfl⟩ := List.getLast?_eq_some_iff.mp slashed
      simp
  have remains : ¬(name.reverse ++ front.reverse = [] ∨
      name.reverse ++ front.reverse = [slash]) := by
    rintro (empty | root)
    · exact someBytes (List.append_eq_nil_iff.mp empty).1
    · rcases List.append_eq_singleton_iff.mp root with ⟨none, _⟩ | ⟨isSlash, _⟩
      · exact someBytes none
      · exact noSlash (isSlash ▸ List.mem_singleton_self slash)
  simp only [parent?, List.reverse_append,
    trimBackwards_append_of_isName proper, if_neg remains, behindName, trimmed]

/-- The parent of a joined path is the path before the name, trimmed. -/
theorem parent?_join (proper : IsName name) (directory : Path) :
    parent? (join directory name) = some (trimmed directory) := by
  by_cases empty : directory = []
  · subst empty
    have alone : parent? ([] ++ name) = some (trimmed []) :=
      parent?_append proper (.inl rfl)
    rwa [List.nil_append, ← join_empty name] at alone
  · have someBytes : directory.reverse ≠ [] := by simpa using empty
    rw [join_eq empty (isAbsolute_of_isName proper)]
    by_cases slashed : directory.getLast? = some slash
    · rw [if_pos slashed]
      exact parent?_append proper (.inr slashed)
    · have behind := parent?_append proper (.inr
        (List.getLast?_concat (l := directory) (a := slash)))
      rw [List.append_assoc] at behind
      rw [if_neg slashed, ← List.singleton_append, behind, trimmed, trimmed,
        ← trimBackwards_slash someBytes, List.reverse_append]
      rfl

end TemplateLint.Path
