import TemplateLint.Text.Blank

/-!
# Lines of a text

Cutting a text at a separator, the first line of a text, and the removal of a
carriage return that ends a line.
-/

namespace TemplateLint.Text

/-- The parts of a sequence between the occurrences of a separator.  There is
always one part more than there are separators. -/
def splitAt {Sign : Type} [DecidableEq Sign] (separator : Sign) :
    List Sign → List (List Sign)
  | [] => [[]]
  | head :: tail =>
      if head = separator then [] :: splitAt separator tail
      else
        match splitAt separator tail with
        | [] => [[head]]
        | part :: parts => (head :: part) :: parts

theorem splitAt_ne_nil {Sign : Type} [DecidableEq Sign] (separator : Sign)
    (text : List Sign) : splitAt separator text ≠ [] := by
  cases text with
  | nil => simp [splitAt]
  | cons head tail =>
      unfold splitAt
      split
      · simp
      · split <;> simp

/-- The text before the first line feed. -/
def firstLine (text : String) : String :=
  String.ofList (text.toList.takeWhile (· ≠ '\n'))

/-- A line without one carriage return at its end. -/
def dropReturn (line : List Char) : List Char :=
  if line.getLast? = some '\r' then line.dropLast else line

/-- The first line that holds more than blanks, without the blanks around
it. -/
def firstFilledLine (text : String) : Option String :=
  (((splitAt '\n' text.toList).map (trimBoth isBlank)).find?
    (fun line => !line.isEmpty)).map String.ofList

end TemplateLint.Text
