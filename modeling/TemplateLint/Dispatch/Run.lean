import TemplateLint.Dispatch.Schedule
import TemplateLint.FileTree.Discovery
import TemplateLint.Report.Render
import TemplateLint.RunFailure

/-!
# Runs

A run resolves its input paths, lints every file that they stand for, and
reports a block for each path and then the summary.  Missing paths and files
that are not linted are reported at once, in the order of the inputs; files
that are linted, as they settle.  The first failure that is not passed over
ends the run.

This is what a run comes to.  What can happen on the way to it, and for which
files the linter is still called when a run fails, is a matter of how its tasks
are interleaved.
-/

namespace TemplateLint.Dispatch

open Report

/-- What the linter has to say about a file. -/
inductive Reply where
  | diagnostics (found : List Diagnostic)
  | failed (failure : LintFailure)
  /-- The task that ran the linter was lost, for the cause that the runtime
  names. -/
  | lost (cause : String)
  deriving DecidableEq, Repr

structure Answer where
  delay : Nat
  reply : Reply
  deriving DecidableEq, Repr

/-- What the linter answers for each path. -/
abbrev Engine := Path → Answer

/-! ## Inputs -/

/-- What becomes of a path before anything is linted. -/
inductive Item where
  | settled (path : Path) (outcome : Outcome)
  | submitted (path : Path)
  deriving DecidableEq, Repr

/-- A file is submitted if its extension is linted. -/
def itemOfFile (allowed : List String) (path : Path) : Item :=
  match classify allowed path.shown with
  | .eligible => .submitted path
  | .skipped extension => .settled path (.skipped extension)

/-- The items of an input path; a directory stands for the files found in
it. -/
def itemsOfInput (tree : FileTree) (allowed : List String) (input : String) :
    List Item :=
  match tree.resolve allowed input with
  | .missing => [.settled input .missing]
  | .file => [itemOfFile allowed input]
  | .directory paths => paths.map (itemOfFile allowed)

/-- The items of all input paths, in order. -/
def itemsOf (tree : FileTree) (allowed inputs : List String) : List Item :=
  inputs.flatMap (itemsOfInput tree allowed)

def Item.settled? : Item → Option (Path × Outcome)
  | .settled path outcome => some (path, outcome)
  | .submitted _ => none

def Item.submitted? : Item → Option Path
  | .settled _ _ => none
  | .submitted path => some path

/-- The paths that are reported at once, with their outcomes. -/
def settledAtOnce (items : List Item) : List (Path × Outcome) :=
  items.filterMap Item.settled?

/-- The paths that are linted. -/
def submissions (items : List Item) : List Path :=
  items.filterMap Item.submitted?

/-! ## Replies -/

/-- The reply ends the run: the linter failed in a way that is not passed over,
or its task was lost. -/
def Reply.endsRun : Reply → Bool
  | .diagnostics _ => false
  | .failed failure => !failure.isSuppressed
  | .lost _ => true

/-- The outcome of a file, or why its reply ends the run. -/
def Reply.toOutcome (path : Path) : Reply → Except RunFailure Outcome
  | .diagnostics found => .ok (Outcome.ofDiagnostics found)
  | .failed failure =>
      if failure.isSuppressed then .ok (.passedOver failure)
      else .error (.dispatch path failure)
  | .lost cause => .error (.taskLost cause)

/-- The outcomes of files in the order in which they settle, up to the first
reply that ends the run, and that reply's failure. -/
def collect (engine : Engine) :
    List Path → List (Path × Outcome) × Option RunFailure
  | [] => ([], none)
  | path :: rest =>
      match (engine path).reply.toOutcome path with
      | .error failure => ([], some failure)
      | .ok outcome =>
          let (outcomes, failure) := collect engine rest
          ((path, outcome) :: outcomes, failure)

/-! ## The run -/

/-- What a run has reported, for which files the linter is called, in order,
and how the run ended.  A run that fails breaks off, perhaps before the last
of these calls. -/
structure RunResult where
  blocks : List Block
  calls : List Path
  ending : Except RunFailure Summary

structure Settings where
  color : Bool := false
  jobs : Option UInt64 := none
  deriving DecidableEq, Repr

/-- The blocks of outcomes; a block without lines is not reported. -/
def blocksOf (color : Bool) (outcomes : List (Path × Outcome)) :
    List Block :=
  (outcomes.map fun (path, outcome) =>
    outcomeBlock color defaultExtensions path.shown outcome).filter
      (fun block => !block.isEmpty)

def summaryOf (outcomes : List (Path × Outcome)) : Summary :=
  Summary.mergeAll (outcomes.map fun (_, outcome) => Summary.ofOutcome outcome)

/-- The schedule of some files when all of them have settled. -/
def courseOf (settings : Settings) (engine : Engine) (files : List Path) :
    Schedule Path :=
  Schedule.course (fun path => (engine path).delay) (slotsFor settings.jobs)
    files

/-- Lint the files that some inputs stand for. -/
def run (settings : Settings) (tree : FileTree) (engine : Engine)
    (inputs : List String) : RunResult :=
  let items := itemsOf tree defaultExtensions inputs
  let schedule := courseOf settings engine (submissions items)
  let (outcomes, failure) := collect engine schedule.settled
  let settled := settledAtOnce items ++ outcomes
  let blocks := blocksOf settings.color settled
  match failure with
  | some failure => ⟨blocks, schedule.started, .error failure⟩
  | none =>
      let summary := summaryOf settled
      ⟨blocks ++ [summaryBlock settings.color summary], schedule.started,
        .ok summary⟩

@[simp]
theorem submissions_nil : submissions [] = [] := rfl

@[simp]
theorem submissions_settled_cons (path : Path) (outcome : Outcome)
    (items : List Item) :
    submissions (.settled path outcome :: items) = submissions items := rfl

@[simp]
theorem submissions_submitted_cons (path : Path) (items : List Item) :
    submissions (.submitted path :: items) = path :: submissions items := rfl

@[simp]
theorem settledAtOnce_nil : settledAtOnce [] = [] := rfl

@[simp]
theorem settledAtOnce_settled_cons (path : Path) (outcome : Outcome)
    (items : List Item) :
    settledAtOnce (.settled path outcome :: items) =
      (path, outcome) :: settledAtOnce items := rfl

@[simp]
theorem settledAtOnce_submitted_cons (path : Path) (items : List Item) :
    settledAtOnce (.submitted path :: items) = settledAtOnce items := rfl

theorem itemsOf_append (tree : FileTree) (allowed left right : List String) :
    itemsOf tree allowed (left ++ right) =
      itemsOf tree allowed left ++ itemsOf tree allowed right := by
  simp [itemsOf]

end TemplateLint.Dispatch
