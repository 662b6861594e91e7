import TemplateLint.Proofs.CommandLine.Paths
import TemplateLint.Proofs.Program.ExitStatus

/-!
# Piped paths in place of given ones

Once a path is piped, the paths among the arguments are of no account.  The
program then does what it does if nothing is piped and the piped paths stand
among the arguments, behind the one that ends the options.
-/

namespace TemplateLint

/-- The same surrounding, but with nothing on the standard input. -/
def Surrounding.silent (surrounding : Surrounding) : Surrounding :=
  { surrounding with input := ByteArray.empty }

namespace Program

open CommandLine Report

/-- The program reports, starts, prints and ends with the same for two command
lines, each in a surrounding of its own. -/
structure BehavesAlike (surrounding : Surrounding) (texts : List String)
    (other : Surrounding) (otherTexts : List String) : Prop where
  execute_eq : execute surrounding texts = execute other otherTexts
  printed_eq : printed surrounding texts = printed other otherTexts
  exitCode_eq :
    exitCode (execute surrounding texts).ending =
      exitCode (execute other otherTexts).ending

theorem behavesAlike_of_perform {surrounding other : Surrounding}
    {texts otherTexts : List String} {arguments otherArguments : Arguments}
    (accepted : Arguments.parse texts = .ok arguments)
    (otherAccepted : Arguments.parse otherTexts = .ok otherArguments)
    (sameColor : usesColor surrounding arguments =
      usesColor other otherArguments)
    (sameEngine : surrounding.environmentEngine = other.environmentEngine)
    (same : perform surrounding arguments = perform other otherArguments) :
    BehavesAlike surrounding texts other otherTexts := by
  have executed :
      execute surrounding texts = execute other otherTexts := by
    rw [execute_of_accepted accepted, execute_of_accepted otherAccepted,
      same]
  constructor
  · exact executed
  · rw [printed_of_accepted accepted, printed_of_accepted otherAccepted,
      same, sameColor, sameEngine]
  · rw [executed]

/-! ## Where the paths come from -/

theorem readPaths_empty : readPaths ByteArray.empty = some [] := by
  decide +kernel

theorem pathsOfText_ne_nil {text : String}
    (someLine : ∃ line ∈ pathsOfLines (Text.splitAt '\n' text.toList),
      line ≠ []) :
    pathsOfText text ≠ [] := by
  obtain ⟨line, member, filled⟩ := someLine
  have kept : line ∈ (pathsOfLines (Text.splitAt '\n' text.toList)).filter
      (fun line => !line.isEmpty) :=
    List.mem_filter.mpr ⟨member, by simpa using filled⟩
  exact List.ne_nil_of_mem (List.mem_map_of_mem kept)

theorem perform_of_piped {surrounding : Surrounding} {piped : List String}
    (readable : readPaths surrounding.input = some piped)
    (somePiped : piped ≠ []) (arguments : Arguments) :
    perform surrounding arguments =
      perform surrounding.silent (arguments.withPaths piped) := by
  have taken := effectivePaths_of_ne_nil arguments somePiped
  have given : readPaths surrounding.silent.input = some [] :=
    readPaths_empty
  unfold perform
  rw [readable, given]
  dsimp only
  rw [taken]
  rfl

/-- Piped paths take the place of all paths among the arguments, and it makes
no difference whether they are piped or stand behind the options.  Outside of
this library no argument can hold a null character, so that there the second
part is about lines without one. -/
theorem piped_paths_replace_given (surrounding : Surrounding)
    {texts otherTexts : List String} {arguments otherArguments : Arguments}
    (accepted : Arguments.parse texts = .ok arguments)
    (otherAccepted : Arguments.parse otherTexts = .ok otherArguments)
    (sameOptions : arguments.withPaths [] = otherArguments.withPaths [])
    {text : String}
    (decoded : Text.decodeStrict surrounding.input = some text)
    (someLine : ∃ line ∈ pathsOfLines (Text.splitAt '\n' text.toList),
      line ≠ []) :
    let piped := pathsOfText text
    let given := optionTexts texts ++ "--" :: piped
    BehavesAlike surrounding texts surrounding otherTexts ∧
    (optionTexts texts).Sublist texts ∧
    Arguments.parse given = .ok (arguments.withPaths piped) ∧
    BehavesAlike surrounding texts surrounding.silent given := by
  intro piped given
  have readable : readPaths surrounding.input = some piped := by
    rw [readPaths, decoded]
    rfl
  have somePiped : piped ≠ [] := pathsOfText_ne_nil someLine
  have sameArguments :
      arguments.withPaths piped = otherArguments.withPaths piped :=
    congrArg (·.withPaths piped) sameOptions
  have sameColor : usesColor surrounding (arguments.withPaths []) =
      usesColor surrounding (otherArguments.withPaths []) := by
    rw [sameOptions]
  have givenAccepted : Arguments.parse given =
      .ok (arguments.withPaths piped) :=
    Arguments.parse_optionTexts accepted piped
  refine ⟨?_, optionTexts_sublist texts, givenAccepted, ?_⟩
  · refine behavesAlike_of_perform accepted otherAccepted sameColor rfl ?_
    rw [perform_of_piped readable somePiped, sameArguments,
      ← perform_of_piped readable somePiped]
  · exact behavesAlike_of_perform accepted givenAccepted rfl rfl
      (perform_of_piped readable somePiped arguments)

/-- A path that begins with a hyphen is piped, with a blank line and carriage
returns around it. -/
theorem piped_paths_replace_given_hyphen :
    let surrounding : Surrounding :=
      { tree := FileTree.empty.putFile "-x.md" ByteArray.empty
        input := "gone\r\n\r\n-x.md".toUTF8
        environmentEngine := none
        launch := fun _ _ => .error .notFound }
    let given := ["-j2", "--", "gone", "-x.md"]
    BehavesAlike surrounding ["-j2", "a.md"]
        surrounding ["--jobs=2", "--", "--nope"] ∧
      BehavesAlike surrounding ["-j2", "a.md"] surrounding.silent given := by
  intro surrounding given
  have accepted : Arguments.parse ["-j2", "a.md"] =
      .ok { jobs := some 2, paths := ["a.md"] } := by
    rfl
  have otherAccepted : Arguments.parse ["--jobs=2", "--", "--nope"] =
      .ok { jobs := some 2, paths := ["--nope"] } := by
    rfl
  have decoded : Text.decodeStrict surrounding.input =
      some "gone\r\n\r\n-x.md" := by
    decide +kernel
  obtain ⟨sameOptions, _, _, samePaths⟩ :=
    piped_paths_replace_given surrounding accepted otherAccepted rfl decoded
      (by decide +kernel)
  have options : optionTexts ["-j2", "a.md"] = ["-j2"] := by
    rfl
  have piped : pathsOfText "gone\r\n\r\n-x.md" = ["gone", "-x.md"] := by
    decide +kernel
  rw [options, piped] at samePaths
  exact ⟨sameOptions, samePaths⟩

end Program

end TemplateLint
