import TemplateLint.Program

/-!
# The command line

The program as it is called by name.  It reaches its arguments, its
environment and its three streams, and nothing else: the paths that it is given
are looked up in a working directory without files.
-/

namespace TemplateLint

/-- Write every line to its stream. -/
def Report.Block.write (output errors : IO.FS.Stream)
    (block : Report.Block) : IO Unit :=
  block.forM fun line =>
    match line.stream with
    | .output => output.putStrLn line.text
    | .errors => errors.putStrLn line.text

/-- What surrounds a process. -/
def Surrounding.ofProcess (arguments : List String) : IO Surrounding := do
  let input ← IO.getStdin
  let bytes ←
    if Program.readsInput arguments && !(← input.isTty) then
      input.readBinToEnd
    else pure ByteArray.empty
  let terminal :=
    CommandLine.showsColors (← IO.getEnv "TERM") (← (← IO.getStdout).isTty)
      (← (← IO.getStderr).isTty)
  return Surrounding.isolated bytes (← IO.getEnv "LIQUIDLINT_ENGINE") terminal

end TemplateLint

open TemplateLint

/-- Run the program and exit with its status. -/
def main (arguments : List String) : IO UInt32 := do
  let surrounding ← Surrounding.ofProcess arguments
  let errors ← IO.getStderr
  (Program.printed surrounding arguments).write (← IO.getStdout) errors
  let ending := (Program.execute surrounding arguments).ending
  if let some complaint := Program.complaint? ending then
    errors.putStrLn complaint
  return UInt32.ofNat (Program.exitCode ending)
