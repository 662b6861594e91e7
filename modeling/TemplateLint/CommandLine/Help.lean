/-!
# Help

The texts that describe the program.
-/

namespace TemplateLint.CommandLine

/-- The name and the version of the program. -/
def versionLine : String := "liquidlint 1.0.2"

/-- The description of the program.  The engine that the environment asks for
is shown with its option. -/
def helpLines (environmentEngine : Option String) : List String :=
  ["Batch linter for Liquid template files",
    "",
    "Usage: liquidlint [OPTIONS] [PATHS]...",
    "",
    "Arguments:",
    "  [PATHS]...  Files or directories to lint",
    "",
    "Options:",
    "  -b, --custom-block <NAME>  Custom block to accept (can be used multiple times)",
    "  -t, --custom-tag <NAME>    Custom tag to accept (can be used multiple times)",
    "  -c, --config <CONFIG>      Configuration file path",
    "      --engine <PROGRAM>     Linter program run once per file [env: LIQUIDLINT_ENGINE=" ++
      environmentEngine.getD "" ++ "]",
    "      --engine-arg <ARG>     Extra argument passed to the linter program (can be used multiple times)",
    "  -j, --jobs <N>             Maximum number of files linted at once",
    "      --color <COLOR>        When to use colors [default: auto] [possible values: auto, always, never]",
    "  -v, --verbose              Enable verbose output",
    "  -h, --help                 Print help",
    "  -V, --version              Print version"]

@[simp]
theorem helpLines_length (environmentEngine : Option String) :
    (helpLines environmentEngine).length = 18 := rfl

end TemplateLint.CommandLine
