import Mathlib.Data.List.TakeWhile
import TemplateLint.Program
import TemplateLint.Proofs.Dispatch.Reports

/-!
# What the linter's output comes to

Once the linter has been started, its standard output decides: a response is
taken at its word whatever else the process did.  Without a response there is
a failure, which its standard error explains.  Only a response that reports the
known false alarm is passed over; with any other failure the run fails.
-/

namespace TemplateLint.Text

/-! ## Lines that are filled -/

def IsBlankLine (line : List Char) : Prop :=
  ∀ character ∈ line, isBlank character = true

/-- The message is what the first line that is not blank says between its
blanks. -/
def IsFirstFilledLine (text message : String) : Prop :=
  ∃ before line after,
    splitAt '\n' text.toList = before ++ line :: after ∧
    (∀ earlier ∈ before, IsBlankLine earlier) ∧
    ¬IsBlankLine line ∧
    message = trim (String.ofList line)

theorem trimBoth_eq_nil_iff (test : Char → Bool) (text : List Char) :
    trimBoth test text = [] ↔ ∀ character ∈ text, test character = true := by
  unfold trimBoth
  rw [List.reverse_eq_nil_iff, List.dropWhile_eq_nil_iff]
  constructor
  · intro blankRest character member
    by_contra filled
    have kept : character ∈ text.dropWhile test := by
      rw [← List.takeWhile_append_dropWhile (p := test) (l := text)]
        at member
      rcases List.mem_append.mp member with dropped | kept
      · exact absurd (List.mem_takeWhile_imp dropped) filled
      · exact kept
    exact filled (blankRest character (List.mem_reverse.mpr kept))
  · intro blank character member
    have kept := List.mem_reverse.mp member
    exact blank character ((List.dropWhile_sublist test).mem kept)

theorem trimBoth_isEmpty_iff (line : List Char) :
    (trimBoth isBlank line).isEmpty = true ↔ IsBlankLine line := by
  rw [List.isEmpty_iff]
  exact trimBoth_eq_nil_iff isBlank line

theorem firstFilledLine_of_eq_some {text message : String}
    (found : firstFilledLine text = some message) :
    IsFirstFilledLine text message := by
  obtain ⟨trimmed, isFirst, rfl⟩ := Option.map_eq_some_iff.mp found
  rw [List.find?_map] at isFirst
  obtain ⟨line, lineIsFirst, rfl⟩ := Option.map_eq_some_iff.mp isFirst
  obtain ⟨filled, before, after, lines, blank⟩ :=
    List.find?_eq_some_iff_append.mp lineIsFirst
  refine ⟨before, line, after, lines, ?_, ?_, ?_⟩
  · intro earlier member
    rw [← trimBoth_isEmpty_iff]
    simpa using blank earlier member
  · rw [← trimBoth_isEmpty_iff]
    simpa using filled
  · simp [trim]

theorem isBlankLine_of_firstFilledLine_eq_none {text : String}
    (notFound : firstFilledLine text = none) {line : List Char}
    (member : line ∈ splitAt '\n' text.toList) : IsBlankLine line := by
  rw [firstFilledLine, Option.map_eq_none_iff, List.find?_eq_none]
    at notFound
  rw [← trimBoth_isEmpty_iff]
  simpa using notFound _ (List.mem_map_of_mem member)

end TemplateLint.Text

namespace TemplateLint.Linter

open Dispatch Program

/-! ## Processes -/

theorem interpret_of_response {result : ProcessResult} {response : Response}
    (parsed : Response.parse (Text.decodeLenient result.output) =
      .ok response) :
    result.interpret = response.toResult := by
  rw [ProcessResult.interpret, parsed]

/-- An output that is no response is explained by the first line on the
standard error that says something, or else by what is wrong with it. -/
theorem exists_explanation {result : ProcessResult} {fault : Json.Fault}
    (refused : Response.parse (Text.decodeLenient result.output) =
      .error fault) :
    ∃ message,
      result.interpret =
        .error (.invalidResponse result.status.message message) ∧
      (Text.IsFirstFilledLine (Text.decodeLenient result.errors) message ∨
        (∀ line ∈ Text.splitAt '\n'
            (Text.decodeLenient result.errors).toList,
          Text.IsBlankLine line) ∧
        message = fault.message) := by
  refine
    ⟨(Text.firstFilledLine (Text.decodeLenient result.errors)).getD
      fault.message, ?_, ?_⟩
  · rw [ProcessResult.interpret, refused]
  · cases found :
      Text.firstFilledLine (Text.decodeLenient result.errors) with
    | some line => exact Or.inl (Text.firstFilledLine_of_eq_some found)
    | none =>
        exact Or.inr
          ⟨fun _ member =>
            Text.isBlankLine_of_firstFilledLine_eq_none found member, rfl⟩

theorem toResult_isSuppressed_iff (response : Response) :
    (∃ failure, response.toResult = .error failure ∧
      failure.isSuppressed = true) ↔
      ∃ message, response = .error ⟨"sandbox_include", message⟩ := by
  cases response with
  | diagnostics issues => simp [Response.toResult]
  | error reported =>
      obtain ⟨kind, message⟩ := reported
      simp [Response.toResult, Response.failureOf_isSuppressed_iff,
        Response.sandboxKind]

/-- What is passed over is a response that reports the known false alarm. -/
theorem interpret_isSuppressed_iff (result : ProcessResult) :
    (∃ failure, result.interpret = .error failure ∧
      failure.isSuppressed = true) ↔
      ∃ message,
        Response.parse (Text.decodeLenient result.output) =
          .ok (.error ⟨"sandbox_include", message⟩) := by
  cases parsed : Response.parse (Text.decodeLenient result.output) with
  | ok response =>
      rw [interpret_of_response parsed, toResult_isSuppressed_iff]
      simp
  | error fault =>
      obtain ⟨message, failed, _⟩ := exists_explanation parsed
      simp [failed, LintFailure.isSuppressed]

/-! ## Runs -/

/-- A failure that is not passed over ends every run in which its file is
linted, and the file is not reported as if it were clean. -/
theorem run_fails_of_lint_fails {command : Command} {launch : Launcher}
    {path : Path} {failure : LintFailure}
    (fails : command.lint launch path = .error failure)
    (reported : ∀ message, failure ≠ .sandboxInclude message)
    (settings : Settings) {tree : FileTree} (delay : Path → Nat)
    {inputs : List String}
    (linted : path ∈ inputs.flatMap (lintedFiles tree)) :
    (∃ cause,
      (run settings tree (engineOf command launch delay) inputs).ending =
        .error cause) ∧
    ∀ block, (path, block) ∉
      reportsOfRun settings tree (engineOf command launch delay) inputs := by
  have reply :
      (engineOf command launch delay path).reply = .failed failure := by
    simp [engineOf, fails]
  have fatal : failure.isSuppressed = false := by
    refine Bool.eq_false_iff.mpr fun suppressed => ?_
    obtain ⟨message, same⟩ :=
      (LintFailure.isSuppressed_iff failure).mp suppressed
    exact reported message same
  constructor
  · apply (run_fails_iff settings tree _ inputs).mpr
    refine ⟨path, linted, ?_⟩
    rw [reply, Reply.endsRun, fatal]
    rfl
  · exact not_reported_of_failed linted reply

/-- The standard output of a linter that has been started decides.  A response
is translated, whatever the process wrote to its standard error and however it
ended; anything else is a failure with the status of the process and an
explanation.  It is passed over exactly if the output is a response that
reports the known false alarm, and a file with any other failure is never
taken for a clean one. -/
theorem output_decides (command : Command) (launch : Launcher)
    (path : Path) {result : ProcessResult}
    (starts : launch command.program (command.argumentsFor path) =
      .ok result) :
    let parsed := Response.parse (Text.decodeLenient result.output)
    (∀ response, parsed = .ok response →
      command.lint launch path = response.toResult ∧
      ∀ other : ProcessResult, other.output = result.output →
        other.interpret = response.toResult) ∧
    (∀ fault, parsed = .error fault →
      ∃ message,
        command.lint launch path =
          .error (.invalidResponse result.status.message message) ∧
        (Text.IsFirstFilledLine (Text.decodeLenient result.errors)
            message ∨
          (∀ line ∈ Text.splitAt '\n'
              (Text.decodeLenient result.errors).toList,
            Text.IsBlankLine line) ∧
          message = fault.message)) ∧
    ((∃ failure, command.lint launch path = .error failure ∧
        failure.isSuppressed = true) ↔
      ∃ message, parsed = .ok (.error ⟨"sandbox_include", message⟩)) ∧
    ∀ settings tree delay inputs file failure,
      command.lint launch file = .error failure →
      (∀ message, failure ≠ .sandboxInclude message) →
      file ∈ inputs.flatMap (lintedFiles tree) →
      (∃ cause,
        (run settings tree (engineOf command launch delay) inputs).ending =
          .error cause) ∧
      ∀ block, (file, block) ∉
        reportsOfRun settings tree (engineOf command launch delay)
          inputs := by
  intro parsed
  have interpreted : command.lint launch path = result.interpret := by
    rw [Command.lint, starts]
  rw [interpreted]
  refine ⟨?_, ?_, interpret_isSuppressed_iff result, ?_⟩
  · intro response isResponse
    refine ⟨interpret_of_response isResponse, fun other sameOutput => ?_⟩
    apply interpret_of_response
    rw [sameOutput]
    exact isResponse
  · intro fault refused
    exact exists_explanation refused
  · intro settings tree delay inputs file failure fails reported linted
    exact run_fails_of_lint_fails fails reported settings delay linted

/-- A killed process that had reported the false alarm before. -/
theorem output_decides_killed_process :
    let result : ProcessResult :=
      { output :=
          "\x7b\"error\":\x7b\"kind\":\"sandbox_include\"\x7d\x7d\n".toUTF8
        errors := "panic".toUTF8
        status := .killed 9 }
    let launch : Launcher := fun _ _ => .ok result
    Command.lint ⟨"linter", [], {}⟩ launch "a.md" =
      .error (.sandboxInclude "") := by
  intro result launch
  have parsed : Response.parse (Text.decodeLenient result.output) =
      .ok (.error ⟨"sandbox_include", ""⟩) := by
    have response :
        (Response.parse (Text.decodeLenient result.output)).toOption =
          some (.error ⟨"sandbox_include", ""⟩) := by
      decide +kernel
    cases read : Response.parse (Text.decodeLenient result.output) with
    | error fault => simp [read, Except.toOption] at response
    | ok found => simpa [read, Except.toOption] using response
  exact ((output_decides ⟨"linter", [], {}⟩ launch "a.md" rfl).1 _
    parsed).1

end TemplateLint.Linter
