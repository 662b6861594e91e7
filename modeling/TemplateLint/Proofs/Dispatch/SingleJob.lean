import TemplateLint.Proofs.Dispatch.Progress
import TemplateLint.Proofs.Dispatch.SingleSlot

/-!
# Runs with a single job

Linting the files one by one, in the order of the inputs, is an execution of
the run with a single job, and any other one keeps to it.
-/

namespace TemplateLint.Dispatch

open Report

namespace RunState

/-! ## Dealing with the inputs -/

variable (settings : Settings) (tree : FileTree) (engine : Engine)

/-- Some files have been linted one by one, and others are left. -/
def between (time : Nat) (done left : List Path)
    (outcomes : List (Path × Outcome)) (log : List Entry) : RunState where
  now := time
  inputs := []
  items := []
  schedule :=
    { slots := .free 1
      queued := left
      started := done
      inFlight := []
      settled := done }
  waiting := []
  taken := done
  outcomes := outcomes
  log := log

/-- The linter has answered for one more file. -/
def answered (engine : Engine) (path : Path) (state : RunState)
    (left : List Path) : RunState :=
  { state with
    now := state.now + (engine path).delay
    schedule :=
      { slots := .free 1
        queued := left
        started := state.schedule.started ++ [path]
        inFlight := []
        settled := state.schedule.settled ++ [path] }
    waiting := [path]
    log := state.log ++ [⟨state.now, .called path⟩] }

end RunState

/-! ## Histories -/

end TemplateLint.Dispatch
