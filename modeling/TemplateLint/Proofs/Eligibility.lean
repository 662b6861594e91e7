import TemplateLint.Eligibility
import TemplateLint.Proofs.Path.Texts

/-!
# Which paths are eligible

A path is eligible if it ends with a point and an extension of the allow-list.
The extensions that are linted if nothing else is asked for have no slash, so
that only the last part of a path decides on it.
-/

namespace TemplateLint

/-- Cut a text at the last occurrence of a character. -/
theorem Text.exists_last_of_mem {character : Char} {text : List Char}
    (member : character ∈ text) :
    ∃ front back, text = front ++ character :: back ∧ character ∉ back := by
  obtain ⟨back, front, reversed, absent⟩ :=
    List.eq_append_cons_of_mem (List.mem_reverse.mpr member)
  refine ⟨front.reverse, back.reverse, ?_, by simpa using absent⟩
  have whole := congrArg List.reverse reversed
  simpa using whole

/-! ## Extensions -/

/-- The path ends with a point and the extension, which has no point itself.
The extension of a path without a point is empty. -/
def IsExtension (path extension : String) : Prop :=
  '.' ∉ extension.toList ∧
    ((∃ front, path = front ++ "." ++ extension) ∨
      '.' ∉ path.toList ∧ extension = "")

theorem extensionOf_of_pointless {path : String}
    (pointless : '.' ∉ path.toList) : extensionOf path = "" := by
  rw [extensionOf, if_neg pointless]

theorem exists_front_of_mem {path : String} (pointed : '.' ∈ path.toList) :
    ∃ front, path = front ++ "." ++ extensionOf path := by
  obtain ⟨front, back, text, pointless⟩ := Text.exists_last_of_mem pointed
  have whole : path = String.ofList front ++ "." ++ String.ofList back := by
    rw [← String.toList_inj]
    simp [text]
  have behind : extensionOf path = String.ofList back := by
    rw [whole]
    exact extensionOf_append _ (by simpa using pointless)
  exact ⟨String.ofList front, by rw [behind, ← whole]⟩

/-- Every path has exactly one extension. -/
theorem isExtension_iff {path extension : String} :
    IsExtension path extension ↔ extension = extensionOf path := by
  constructor
  · rintro ⟨pointless, ⟨front, rfl⟩ | ⟨noPoint, rfl⟩⟩
    · exact (extensionOf_append front pointless).symm
    · exact (extensionOf_of_pointless noPoint).symm
  · rintro rfl
    refine ⟨extensionOf_no_point path, ?_⟩
    by_cases pointed : '.' ∈ path.toList
    · exact .inl (exists_front_of_mem pointed)
    · exact .inr ⟨pointed, extensionOf_of_pointless pointed⟩

/-! ## Eligible paths -/

theorem classify_eq_eligible_iff_isExtension {allowed : List String}
    {path : String} :
    classify allowed path = .eligible ↔
      ∃ extension ∈ allowed, IsExtension path extension := by
  simp only [classify_eq_eligible_iff, isExtension_iff,
    exists_eq_right]

/-- The path ends with a point and one of the extensions. -/
theorem classify_eq_eligible_iff_ends {allowed : List String}
    {path : String} :
    classify allowed path = .eligible ↔
      (∃ extension ∈ allowed, '.' ∉ extension.toList ∧
        ∃ front, path = front ++ "." ++ extension) ∨
      '.' ∉ path.toList ∧ "" ∈ allowed := by
  rw [classify_eq_eligible_iff_isExtension]
  constructor
  · rintro ⟨extension, listed, pointless, ends | ⟨noPoint, rfl⟩⟩
    · exact .inl ⟨extension, listed, pointless, ends⟩
    · exact .inr ⟨noPoint, listed⟩
  · rintro (⟨extension, listed, pointless, ends⟩ | ⟨noPoint, listed⟩)
    · exact ⟨extension, listed, pointless, .inl ends⟩
    · exact ⟨"", listed, by simp, .inr ⟨noPoint, rfl⟩⟩

/-! ## The last part of a path -/

/-- A path is its last part, or it ends with a slash and its last part. -/
theorem Path.exists_lastPart (path : String) :
    ∃ name, '/' ∉ name.toList ∧
      (Path.parts path).getLast? = some (Path.ofText name) ∧
      (path = name ∨ ∃ front, path = front ++ "/" ++ name) := by
  by_cases slashed : '/' ∈ path.toList
  · obtain ⟨front, back, text, noSlash⟩ := Text.exists_last_of_mem slashed
    have whole : path = String.ofList front ++ "/" ++ String.ofList back := by
      rw [← String.toList_inj]
      simp [text]
    refine ⟨String.ofList back, by simpa using noSlash, ?_, .inr ⟨_, whole⟩⟩
    rw [Path.parts_ofText, text, Text.splitAt_append,
      Text.splitAt_of_not_mem noSlash]
    simp [Path.ofText]
  · refine ⟨path, slashed, ?_, .inl rfl⟩
    rw [Path.parts_ofText, Text.splitAt_of_not_mem slashed]
    rfl

section Local

variable {allowed : List String}
  (solid : ∀ extension ∈ allowed,
    '/' ∉ extension.toList ∧ extension ≠ "")

include solid

theorem classify_eq_eligible_iff_of_solid {path : String} :
    classify allowed path = .eligible ↔
      ∃ extension ∈ allowed, '.' ∉ extension.toList ∧
        ∃ front, path = front ++ "." ++ extension := by
  rw [classify_eq_eligible_iff_ends]
  refine or_iff_left ?_
  rintro ⟨_, listed⟩
  exact (solid "" listed).2 rfl

/-- If extensions have no slash, nothing in front of the last part of a path
makes it eligible or ineligible. -/
theorem classify_behind_slash (front name : String) :
    classify allowed (front ++ "/" ++ name) = .eligible ↔
      classify allowed name = .eligible := by
  rw [classify_eq_eligible_iff_of_solid solid,
    classify_eq_eligible_iff_of_solid solid]
  refine exists_congr fun extension =>
    and_congr_right fun listed => and_congr_right fun _ => ?_
  constructor
  · rintro ⟨before, whole⟩
    have characters := congrArg String.toList whole
    simp only [String.toList_append, List.append_assoc] at characters
    change front.toList ++ '/' :: name.toList =
      before.toList ++ '.' :: extension.toList at characters
    -- The point cannot stand in front of the slash, which would then be in
    -- the extension.
    rcases List.append_eq_append_iff.mp characters with
      ⟨between, _, behind⟩ | ⟨between, _, behind⟩
    · cases between with
      | nil => simp at behind
      | cons slash rest =>
          obtain ⟨_, nameText⟩ := List.cons.inj behind
          refine ⟨String.ofList rest, ?_⟩
          rw [← String.toList_inj]
          simpa using nameText
    · have inExtension : '/' ∈ '.' :: extension.toList := by
        rw [behind]
        simp
      rcases List.mem_cons.mp inExtension with isPoint | isInside
      · cases isPoint
      · exact ((solid extension listed).1 isInside).elim
  · rintro ⟨before, rfl⟩
    exact ⟨front ++ "/" ++ before, by simp only [String.append_assoc]⟩

theorem classify_lastPart {path name : String}
    (last : (Path.parts path).getLast? = some (Path.ofText name)) :
    classify allowed path = .eligible ↔
      classify allowed name = .eligible := by
  obtain ⟨other, _, isLast, whole⟩ := Path.exists_lastPart path
  have same : name = other :=
    Path.ofText_injective (Option.some.inj (last.symm.trans isLast))
  subst same
  rcases whole with rfl | ⟨front, rfl⟩
  · rfl
  · exact classify_behind_slash solid front name

end Local

theorem defaultExtensions_solid : ∀ extension ∈ defaultExtensions,
    '/' ∉ extension.toList ∧ extension ≠ "" := by
  decide

/-- The law of eligibility.  A path is eligible exactly if it ends with a point
and an allowed extension, or has no point while the empty extension is allowed;
otherwise it is skipped with its only extension.  By default two paths with the
same last part are both eligible or both not. -/
theorem classify_by_ending (allowed : List String) (path : String) :
    (classify allowed path = .eligible ↔
      (∃ extension ∈ allowed, '.' ∉ extension.toList ∧
        ∃ front, path = front ++ "." ++ extension) ∨
      '.' ∉ path.toList ∧ "" ∈ allowed) ∧
    (classify allowed path = .eligible ∨
      ∃ extension, classify allowed path = .skipped extension ∧
        IsExtension path extension ∧
        ∀ other, IsExtension path other → other = extension) ∧
    (∀ front, classify defaultExtensions (front ++ "/" ++ path) = .eligible ↔
      classify defaultExtensions path = .eligible) ∧
    ∀ other : String,
      (Path.parts other).getLast? = (Path.parts path).getLast? →
      (classify defaultExtensions other = .eligible ↔
        classify defaultExtensions path = .eligible) := by
  refine ⟨classify_eq_eligible_iff_ends, ?_,
    fun front => classify_behind_slash defaultExtensions_solid front path,
    fun other same => ?_⟩
  · by_cases listed : extensionOf path ∈ allowed
    · exact .inl ((classify_eq_eligible_iff allowed path).mpr listed)
    · exact .inr ⟨extensionOf path, if_neg listed, isExtension_iff.mpr rfl,
        fun other isOther => isExtension_iff.mp isOther⟩
  · obtain ⟨name, _, isLast, _⟩ := Path.exists_lastPart path
    rw [classify_lastPart defaultExtensions_solid (same.trans isLast),
      classify_lastPart defaultExtensions_solid isLast]

/-- Points in the names of directories and at the front of the last part. -/
theorem classify_by_ending_below_points :
    let path : String := "theme.v2/a.b/.page.liquid"
    (Path.parts ".page.liquid").getLast? = (Path.parts path).getLast? ∧
      (classify defaultExtensions ".page.liquid" = .eligible ↔
        classify defaultExtensions path = .eligible) := by
  intro path
  have same : (Path.parts ".page.liquid").getLast? =
      (Path.parts path).getLast? := by
    decide
  exact ⟨same, (classify_by_ending [] path).2.2.2 ".page.liquid" same⟩

example : classify defaultExtensions "notes.md/README" =
    .skipped "md/README" := by
  decide

end TemplateLint
