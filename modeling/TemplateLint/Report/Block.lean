/-!
# Blocks

A block is what a run reports at once: some lines, each for one of the two
output streams.
-/

namespace TemplateLint.Report

inductive Stream where
  | output
  | errors
  deriving DecidableEq, Repr

structure Line where
  stream : Stream
  text : String
  deriving DecidableEq, Repr

abbrev Block := List Line

namespace Block

/-- The texts of the lines for one stream, in order. -/
def linesOn (stream : Stream) (block : Block) : List String :=
  (block.filter (fun line => line.stream == stream)).map Line.text

@[simp]
theorem linesOn_nil (stream : Stream) : linesOn stream [] = [] := rfl

theorem linesOn_append (stream : Stream) (left right : Block) :
    linesOn stream (left ++ right) =
      linesOn stream left ++ linesOn stream right := by
  simp [linesOn]

end Block

end TemplateLint.Report
