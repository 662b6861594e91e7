/-!
# Colors

A painted text stands between a sequence that turns a style on and one that
turns every style off.  Where the text itself turns styles off, the style is
turned on again.  Without color a text stands as it is.
-/

namespace TemplateLint.Report

/-- The styles of a report. -/
inductive Style where
  | red
  | green
  | yellow
  | bold
  | dimmed
  | redUnderlined
  deriving DecidableEq, Repr

/-- The parameters of a style. -/
def Style.parameters : Style → List Char
  | .red => ['3', '1']
  | .green => ['3', '2']
  | .yellow => ['3', '3']
  | .bold => ['1']
  | .dimmed => ['2']
  | .redUnderlined => ['4', ';', '3', '1']

/-- The sequence that turns a style on. -/
def Style.opening (style : Style) : List Char :=
  '\x1b' :: '[' :: (style.parameters ++ ['m'])

/-- The sequence that turns every style off. -/
def closing : List Char := ['\x1b', '[', '0', 'm']

/-- Insert a sequence after every sequence that turns styles off. -/
def reopen (opening : List Char) : List Char → List Char
  | '\x1b' :: '[' :: '0' :: 'm' :: rest =>
      closing ++ opening ++ reopen opening rest
  | head :: tail => head :: reopen opening tail
  | [] => []

/-- A text in a style, if there is color. -/
def paint (color : Bool) (style : Style) (text : String) : String :=
  if color then
    String.ofList
      (style.opening ++ reopen style.opening text.toList ++ closing)
  else text

@[simp]
theorem paint_false (style : Style) (text : String) :
    paint false style text = text := rfl

end TemplateLint.Report
