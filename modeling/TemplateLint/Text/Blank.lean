import TemplateLint.Text.CodePointRange

/-!
# Blank characters

The characters with the property `White_Space`, and the removal of such
characters from both ends of a text.  The byte order mark is not among them.
-/

namespace TemplateLint.Text

/-- Inclusive ranges of the code points with the property `White_Space`. -/
def blankRanges : List CodePointRange :=
  [(0x9, 0xD), (0x20, 0x20), (0x85, 0x85), (0xA0, 0xA0), (0x1680, 0x1680),
    (0x2000, 0x200A), (0x2028, 0x2029), (0x202F, 0x202F), (0x205F, 0x205F),
    (0x3000, 0x3000)]

def isBlank (character : Char) : Bool :=
  inRanges blankRanges character.toNat

/-- Drop the characters that satisfy `test` from both ends. -/
def trimBoth (test : Char → Bool) (text : List Char) : List Char :=
  ((text.dropWhile test).reverse.dropWhile test).reverse

/-- A text without the blanks at its two ends. -/
def trim (text : String) : String :=
  String.ofList (trimBoth isBlank text.toList)

@[simp]
theorem trimBoth_nil (test : Char → Bool) : trimBoth test [] = [] := rfl

end TemplateLint.Text
