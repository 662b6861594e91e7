import TemplateLint.Text.Lines
import TemplateLint.Text.Utf8

/-!
# Paths

A path is a sequence of bytes whose parts stand between slashes.  Empty parts
and parts that are a single point say nothing, except for a point at the very
front.  Most paths are the bytes of a text, but names that are no text are
possible as well.
-/

namespace TemplateLint

/-- The bytes of a path, or of one of its parts. -/
abbrev Path := List UInt8

namespace Path

/-! ## Bytes and texts -/

/-- The path that a text stands for. -/
def ofText (text : String) : Path :=
  Text.encoded text.toList

instance : Coe String Path := ⟨ofText⟩

/-- The text that a path is, if its bytes are those of a text. -/
def toText? (path : Path) : Option String :=
  Text.decodeStrict path.toByteArray

/-- The text that a path is shown as, with a replacement character for each
part of it that is no text. -/
def shown (path : Path) : String :=
  String.ofList (Text.decodePieces none path)

def slash : UInt8 := 47

def point : UInt8 := 46

/-! ## Parts -/

/-- The parts between the slashes. -/
def parts (path : Path) : List Path :=
  Text.splitAt slash path

/-- The path begins at the root. -/
def isAbsolute (path : Path) : Bool :=
  path.head? == some slash

/-- A part that says nothing. -/
def isVoid (part : Path) : Bool :=
  part == [] || part == [point]

/-- The number of components: the root, a point at the very front, and every
part that says something. -/
def componentCount (path : Path) : Nat :=
  let pieces := parts path
  (if isAbsolute path then 1 else 0) +
    (if pieces.head? = some [point] then 1 else 0) +
    pieces.countP (fun part => !isVoid part)

/-- A path read from a starting point.  An absolute path ignores it. -/
def join (base path : Path) : Path :=
  if isAbsolute path || base.isEmpty then path
  else if base.getLast? = some slash then base ++ path
  else base ++ slash :: path

/-- Drop slashes and lone points from the end of a path, written backwards.
The root stays. -/
def trimBackwards : Path → Path
  | [] => []
  | [byte] => [byte]
  | byte :: next :: rest =>
      if byte = slash ∨ byte = point ∧ next = slash then
        trimBackwards (next :: rest)
      else byte :: next :: rest

/-- The path without its last component; none for the root and for a path
without components. -/
def parent? (path : Path) : Option Path :=
  let trimmed := trimBackwards path.reverse
  if trimmed = [] ∨ trimmed = [slash] then none
  else some (trimBackwards (trimmed.dropWhile (· ≠ slash))).reverse

@[simp]
theorem join_empty (path : Path) : join [] path = path := by
  simp [join]

end Path

end TemplateLint
