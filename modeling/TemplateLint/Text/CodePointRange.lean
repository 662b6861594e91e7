/-!
# Sets of code points

A set of code points is a list of inclusive ranges in increasing order, as
the tables of character properties give it.
-/

namespace TemplateLint.Text

/-- The first and the last code point of a range. -/
abbrev CodePointRange := Nat × Nat

/-- Membership in increasing ranges; the search ends at the first range that
starts beyond the point. -/
def inRanges : List CodePointRange → Nat → Bool
  | [], _ => false
  | (first, last) :: rest, point =>
      if point < first then false
      else if point ≤ last then true
      else inRanges rest point

@[simp]
theorem inRanges_nil (point : Nat) : inRanges [] point = false := rfl

end TemplateLint.Text
