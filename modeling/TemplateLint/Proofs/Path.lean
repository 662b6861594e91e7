import TemplateLint.FileTree.Basic

/-!
# Paths below a path

Names that are joined to a path stand at the end of its parts, so that the
path and the names determine each other.
-/

namespace TemplateLint

namespace Text

variable {Sign : Type} [DecidableEq Sign] {separator : Sign}

theorem splitAt_of_not_mem {text : List Sign} (solid : separator ∉ text) :
    splitAt separator text = [text] := by
  induction text with
  | nil => rfl
  | cons head tail inductionHypothesis =>
      have headDiffers : head ≠ separator := fun equal =>
        solid (equal ▸ List.mem_cons_self)
      have tailWhole := inductionHypothesis fun member =>
        solid (List.mem_cons_of_mem head member)
      simp [splitAt, headDiffers, tailWhole]

theorem splitAt_append (separator : Sign) (left right : List Sign) :
    splitAt separator (left ++ separator :: right) =
      splitAt separator left ++ splitAt separator right := by
  induction left with
  | nil => simp [splitAt]
  | cons head tail inductionHypothesis =>
      by_cases atSeparator : head = separator
      · simp [splitAt, atSeparator, inductionHypothesis]
      · cases parts : splitAt separator tail with
        | nil => exact absurd parts (splitAt_ne_nil separator tail)
        | cons part rest =>
            rw [parts] at inductionHypothesis
            simp [splitAt, atSeparator, inductionHypothesis, parts]

/-- What holds no separator stands in front of the first part. -/
theorem splitAt_append_of_not_mem {front : List Sign}
    (solid : separator ∉ front) (back : List Sign) :
    splitAt separator (front ++ back) =
      match splitAt separator back with
      | [] => [front]
      | part :: parts => (front ++ part) :: parts := by
  induction front with
  | nil =>
      cases split : splitAt separator back with
      | nil => exact absurd split (splitAt_ne_nil separator back)
      | cons part parts => exact split
  | cons head tail inductionHypothesis =>
      rw [List.mem_cons, not_or] at solid
      rw [List.cons_append, splitAt, if_neg (Ne.symm solid.1),
        inductionHypothesis solid.2]
      cases splitAt separator back <;> rfl

end Text

namespace Path

/-- The path of the last of some names, each below the one before. -/
def below (root : Path) (names : List Path) : Path :=
  names.foldl join root

@[simp]
theorem below_nil (root : Path) : below root [] = root := rfl

@[simp]
theorem below_cons (root name : Path) (names : List Path) :
    below root (name :: names) = below (join root name) names := rfl

/-! ## Names -/

theorem isAbsolute_of_noSlash {name : Path} (noSlash : slash ∉ name) :
    isAbsolute name = false := by
  cases name with
  | nil => rfl
  | cons head tail =>
      have headDiffers : head ≠ slash := fun equal =>
        noSlash (equal ▸ List.mem_cons_self)
      simp [isAbsolute, headDiffers]

theorem isAbsolute_of_isName {name : Path} (proper : IsName name) :
    isAbsolute name = false :=
  isAbsolute_of_noSlash proper.no_slash

/-- Whether a path is absolute shows at its beginning. -/
theorem isAbsolute_append {front : Path} (filled : front ≠ [])
    (rest : Path) : isAbsolute (front ++ rest) = isAbsolute front := by
  cases front with
  | nil => exact absurd rfl filled
  | cons head tail => rfl

theorem ne_nil_of_isName {name : Path} (proper : IsName name) :
    name ≠ [] := by
  rintro rfl
  exact absurd proper.not_void (by decide)

/-- A name of more than two bytes is neither void nor leads upwards. -/
theorem isName_of_length {name : Path} (noSlash : slash ∉ name)
    (noNul : 0 ∉ name) (some : 2 < name.length)
    (short : name.length ≤ longestName) : IsName name where
  not_void := by
    have notEmpty : name ≠ [] := by
      rintro rfl
      exact absurd some (by decide)
    have notPoint : name ≠ [point] := by
      rintro rfl
      exact absurd some (by decide)
    simp [isVoid, notEmpty, notPoint]
  not_upwards := by
    rintro rfl
    exact absurd some (by decide)
  no_slash := noSlash
  no_nul := noNul
  short := short

/-! ## Joining a relative path -/

/-- The parts of a path, without the empty one behind a slash at its end. -/
def stem (path : Path) : List Path :=
  if path.getLast? = some slash then (parts path).dropLast
  else parts path

variable {base name : Path}

theorem join_eq (filled : base ≠ []) (relative : isAbsolute name = false) :
    join base name =
      if base.getLast? = some slash then base ++ name
      else base ++ slash :: name := by
  simp [join, relative, filled]

theorem parts_of_noSlash (noSlash : slash ∉ name) : parts name = [name] :=
  Text.splitAt_of_not_mem noSlash

theorem parts_ne_nil (path : Path) : parts path ≠ [] :=
  Text.splitAt_ne_nil slash path

/-- A relative path begins with a part that is not empty. -/
theorem head_parts_ne_nil {path : Path} (filled : path ≠ [])
    (relative : isAbsolute path = false) :
    (parts path).head? ≠ some [] := by
  cases path with
  | nil => exact absurd rfl filled
  | cons head tail =>
      have notSlash : head ≠ slash := by
        rintro rfl
        simp [isAbsolute] at relative
      rw [parts, Text.splitAt, if_neg notSlash]
      split <;> simp

theorem exists_filled_part {path : Path} (filled : path ≠ [])
    (relative : isAbsolute path = false) : ∃ part ∈ parts path, part ≠ [] := by
  obtain ⟨first, rest, split⟩ :=
    List.exists_cons_of_ne_nil (parts_ne_nil path)
  have notEmpty := head_parts_ne_nil filled relative
  rw [split] at notEmpty ⊢
  exact ⟨first, List.mem_cons_self, by simpa using notEmpty⟩

theorem parts_append (left right : Path) :
    parts (left ++ slash :: right) = parts left ++ parts right :=
  Text.splitAt_append slash left right

theorem parts_append_slash (path : Path) :
    parts (path ++ [slash]) = parts path ++ [[]] :=
  parts_append path []

/-- A slash at the end of a path makes its last part empty. -/
theorem parts_of_slash {path : Path} (slashed : path.getLast? = some slash) :
    parts path = stem path ++ [[]] := by
  obtain ⟨front, rfl⟩ := List.getLast?_eq_some_iff.mp slashed
  rw [stem, if_pos slashed, parts_append_slash, List.dropLast_concat]

theorem parts_join (filled : base ≠ [])
    (relative : isAbsolute name = false) :
    parts (join base name) = stem base ++ parts name := by
  rw [join_eq filled relative, stem]
  by_cases slashed : base.getLast? = some slash
  · rw [if_pos slashed, if_pos slashed]
    obtain ⟨front, rfl⟩ := List.getLast?_eq_some_iff.mp slashed
    rw [parts_append_slash, List.dropLast_concat, List.append_assoc]
    exact parts_append front name
  · rw [if_neg slashed, if_neg slashed, parts_append]

theorem join_ne_nil (filled : base ≠ [])
    (relative : isAbsolute name = false) : join base name ≠ [] := by
  rw [join_eq filled relative]
  split <;> simp [filled]

theorem isAbsolute_join (filled : base ≠ [])
    (relative : isAbsolute name = false) :
    isAbsolute (join base name) = isAbsolute base := by
  rw [join_eq filled relative]
  split <;> exact isAbsolute_append filled _

/-- Only a slash is added by joining. -/
theorem mem_join_iff {byte : UInt8} (notSlash : byte ≠ slash)
    (relative : isAbsolute name = false) :
    byte ∈ join base name ↔ byte ∈ base ∨ byte ∈ name := by
  by_cases filled : base = []
  · simp [filled]
  · rw [join_eq filled relative]
    split <;> simp [notSlash]

/-- Joining adds one slash at most. -/
theorem length_join_le (base : Path) (relative : isAbsolute name = false) :
    (join base name).length ≤ base.length + 1 + name.length := by
  by_cases filled : base = []
  · simp [filled]
  · rw [join_eq filled relative]
    split <;> simp only [List.length_append, List.length_cons] <;> omega

theorem le_length_join (base : Path) (relative : isAbsolute name = false) :
    base.length + name.length ≤ (join base name).length := by
  by_cases filled : base = []
  · simp [filled]
  · rw [join_eq filled relative]
    split <;> simp only [List.length_append, List.length_cons] <;> omega

/-- A joined name ends a path without a slash. -/
theorem not_slash_at_end_join (filled : base ≠ []) (proper : IsName name) :
    (join base name).getLast? ≠ some slash := by
  have lastOfName : (join base name).getLast? = name.getLast? := by
    have isLast := List.getLast?_eq_some_getLast (ne_nil_of_isName proper)
    rw [join_eq filled (isAbsolute_of_isName proper)]
    split <;> simp [List.getLast?_append, List.getLast?_cons, isLast]
  rw [lastOfName]
  exact fun last => proper.no_slash (List.mem_of_getLast? last)

theorem stem_join (filled : base ≠ []) (proper : IsName name) :
    stem (join base name) = parts (join base name) := by
  rw [stem, if_neg (not_slash_at_end_join filled proper)]

/-! ## Joining names -/

theorem parts_below {root : Path} (filled : root ≠ []) {names : List Path}
    (someName : names ≠ []) (proper : ∀ name ∈ names, IsName name) :
    parts (below root names) = stem root ++ names := by
  induction names generalizing root with
  | nil => exact absurd rfl someName
  | cons name rest inductionHypothesis =>
      rw [List.forall_mem_cons] at proper
      have relative := isAbsolute_of_isName proper.1
      have joined : parts (join root name) = stem root ++ [name] := by
        rw [parts_join filled relative, parts_of_noSlash proper.1.no_slash]
      rw [below_cons]
      by_cases last : rest = []
      · subst last
        exact joined
      · rw [inductionHypothesis (join_ne_nil filled relative) last
          proper.2, stem_join filled proper.1, joined, List.append_assoc]
        rfl

/-- Different names have different paths. -/
theorem below_injective {root : Path} (filled : root ≠ [])
    {left right : List Path}
    (leftFilled : left ≠ []) (leftProper : ∀ name ∈ left, IsName name)
    (rightFilled : right ≠ []) (rightProper : ∀ name ∈ right, IsName name)
    (equal : below root left = below root right) : left = right := by
  have samePath := congrArg parts equal
  rw [parts_below filled leftFilled leftProper,
    parts_below filled rightFilled rightProper] at samePath
  exact List.append_cancel_left samePath

/-! ## Beginning with a path -/

/-- The path goes on behind the path of a directory and a slash. -/
def IsBelow (directory path : Path) : Prop :=
  ∃ rest, path = directory ++ slash :: rest

theorem below_append (root : Path) (front back : List Path) :
    below root (front ++ back) = below (below root front) back :=
  List.foldl_append

theorem below_ne_nil {root : Path} (filled : root ≠ [])
    {names : List Path} (proper : ∀ name ∈ names, IsName name) :
    below root names ≠ [] := by
  induction names generalizing root with
  | nil => exact filled
  | cons name rest inductionHypothesis =>
      rw [List.forall_mem_cons] at proper
      exact inductionHypothesis
        (join_ne_nil filled (isAbsolute_of_isName proper.1)) proper.2

theorem exists_below_eq_append {root : Path} (filled : root ≠ [])
    {names : List Path} (proper : ∀ name ∈ names, IsName name) :
    ∃ rest, below root names = root ++ rest := by
  induction names generalizing root with
  | nil => exact ⟨[], by simp⟩
  | cons name rest inductionHypothesis =>
      rw [List.forall_mem_cons] at proper
      have relative := isAbsolute_of_isName proper.1
      have joined : ∃ behind, join root name = root ++ behind := by
        rw [join_eq filled relative]
        split <;> exact ⟨_, rfl⟩
      obtain ⟨behind, joined⟩ := joined
      obtain ⟨further, whole⟩ := inductionHypothesis
        (join_ne_nil filled relative) proper.2
      rw [below_cons, whole, joined, List.append_assoc]
      exact ⟨behind ++ further, rfl⟩

theorem not_slash_at_end_below {root : Path} (filled : root ≠ [])
    {names : List Path} (someName : names ≠ [])
    (proper : ∀ name ∈ names, IsName name) :
    (below root names).getLast? ≠ some slash := by
  induction names generalizing root with
  | nil => exact absurd rfl someName
  | cons name rest inductionHypothesis =>
      rw [List.forall_mem_cons] at proper
      rw [below_cons]
      by_cases last : rest = []
      · subst last
        exact not_slash_at_end_join filled proper.1
      · exact inductionHypothesis
          (join_ne_nil filled (isAbsolute_of_isName proper.1)) last proper.2

/-- A path made of names begins with another exactly if its names do. -/
theorem isBelow_below_iff {root : Path} (filled : root ≠ [])
    {names others : List Path} (someName : names ≠ [])
    (proper : ∀ name ∈ names, IsName name) (someOther : others ≠ [])
    (othersProper : ∀ name ∈ others, IsName name) :
    IsBelow (below root names) (below root others) ↔
      ∃ rest, rest ≠ [] ∧ others = names ++ rest := by
  constructor
  · rintro ⟨rest, beginning⟩
    have sameParts := congrArg parts beginning
    rw [parts_append, parts_below filled someName proper,
      parts_below filled someOther othersProper, List.append_assoc]
      at sameParts
    exact ⟨parts rest, parts_ne_nil rest,
      List.append_cancel_left sameParts⟩
  · rintro ⟨rest, someRest, rfl⟩
    obtain ⟨next, further, rfl⟩ := List.exists_cons_of_ne_nil someRest
    rw [List.forall_mem_append, List.forall_mem_cons] at othersProper
    obtain ⟨_, nextProper, furtherProper⟩ := othersProper
    have baseFilled := below_ne_nil filled proper
    have noSlash := not_slash_at_end_below filled someName proper
    have nextRelative := isAbsolute_of_isName nextProper
    have joined : join (below root names) next =
        below root names ++ slash :: next := by
      rw [join_eq baseFilled nextRelative, if_neg noSlash]
    obtain ⟨behind, whole⟩ := exists_below_eq_append
      (join_ne_nil baseFilled nextRelative) furtherProper
    refine ⟨next ++ behind, ?_⟩
    rw [below_append, below_cons, whole, joined, List.append_assoc]
    rfl

/-! ## Slashes behind a path -/

theorem below_slashes (path : Path) {name : Path} (noSlash : slash ∉ name)
    (count : Nat) :
    below (path ++ List.replicate (count + 1) slash) [name] =
      path ++ List.replicate (count + 1) slash ++ name := by
  have filled : path ++ List.replicate (count + 1) slash ≠ [] := by simp
  have slashed :
      (path ++ List.replicate (count + 1) slash).getLast? = some slash := by
    simp [List.getLast?_append, List.getLast?_replicate]
  rw [below_cons, below_nil, join_eq filled (isAbsolute_of_noSlash noSlash),
    if_pos slashed]

end Path

end TemplateLint
