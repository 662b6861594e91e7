import TemplateLint.Text.Lines
import TemplateLint.Text.Utf8

/-!
# Piped paths

Paths that are piped into the program, one on each line.  Up to two carriage
returns before a line feed and one at the end of the input do not belong to
the path; empty lines are passed over.
-/

namespace TemplateLint.CommandLine

/-- The paths on the lines of a text: all lines but the last end with a line
feed. -/
def pathsOfLines : List (List Char) → List (List Char)
  | [] => []
  | [last] => [Text.dropReturn last]
  | line :: next :: rest =>
      Text.dropReturn (Text.dropReturn line) :: pathsOfLines (next :: rest)

/-- The paths in a text. -/
def pathsOfText (text : String) : List String :=
  ((pathsOfLines (Text.splitAt '\n' text.toList)).filter
    (fun line => !line.isEmpty)).map String.ofList

/-- The paths in some bytes; none if they are not well-formed. -/
def readPaths (bytes : ByteArray) : Option (List String) :=
  (Text.decodeStrict bytes).map pathsOfText

/-- The message for bytes that are not well-formed. -/
def unreadablePaths : String := "stream did not contain valid UTF-8"

theorem pathsOfText_ne_empty {text path : String}
    (member : path ∈ pathsOfText text) : path ≠ "" := by
  simp only [pathsOfText, List.mem_map, List.mem_filter] at member
  obtain ⟨line, ⟨_, filled⟩, rfl⟩ := member
  intro empty
  have characters : line = [] := by
    have := congrArg String.toList empty
    simpa using this
  simp [characters] at filled

end TemplateLint.CommandLine
