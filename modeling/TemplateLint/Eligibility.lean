/-!
# Which files are linted

A path is linted when its extension, the text after the last point anywhere in
the path, is in the allow-list.  Upper and lower case differ.
-/

namespace TemplateLint

/-- The extensions that are linted if nothing else is asked for. -/
def defaultExtensions : List String := ["md", "html", "lqd", "liquid"]

/-- The text after the last point of a path; empty if there is no point. -/
def extensionOf (path : String) : String :=
  if '.' ∈ path.toList then
    String.ofList (path.toList.reverse.takeWhile (· ≠ '.')).reverse
  else ""

/-- Whether a path goes to the linter. -/
inductive Eligibility where
  | eligible
  | skipped (extension : String)
  deriving DecidableEq, Repr

/-- Decide by the extension of the path. -/
def classify (allowed : List String) (path : String) : Eligibility :=
  if extensionOf path ∈ allowed then .eligible
  else .skipped (extensionOf path)

theorem classify_eq_eligible_iff (allowed : List String) (path : String) :
    classify allowed path = .eligible ↔ extensionOf path ∈ allowed := by
  unfold classify
  split <;> simp_all

theorem extensionOf_no_point (path : String) :
    '.' ∉ (extensionOf path).toList := by
  unfold extensionOf
  split
  · intro member
    simp only [String.toList_ofList, List.mem_reverse] at member
    have satisfied := List.all_eq_true.mp List.all_takeWhile _ member
    simp at satisfied
  · simp

theorem extensionOf_append (front : String) {extension : String}
    (noPoint : '.' ∉ extension.toList) :
    extensionOf (front ++ "." ++ extension) = extension := by
  have pointless : ∀ character ∈ extension.toList.reverse,
      decide (character ≠ '.') = true := by
    intro character member
    rw [List.mem_reverse] at member
    have notPoint : character ≠ '.' := fun equal =>
      noPoint (equal ▸ member)
    exact decide_eq_true notPoint
  have backwards : (front ++ "." ++ extension).toList.reverse =
      extension.toList.reverse ++ '.' :: front.toList.reverse := by
    simp
  unfold extensionOf
  rw [if_pos (by simp), backwards, List.takeWhile_append_of_pos pointless]
  simp

end TemplateLint
