import TemplateLint.Dispatch.Run

/-!
# Executions

How a run comes about.  Its inputs are resolved one after another, and what
they stand for is reported at once or submitted as a task.  Other threads may
start the tasks that have been submitted at any time, as long as there is a
slot; a task that is over gives its slot back before anyone looks at its reply.
The replies are taken when all inputs have been dealt with, in the order in
which the tasks were over, and the first one that ends the run ends it then and
there.

So it is not determined which calls a failing run still makes: an execution is
any way through these steps.  Time passes only when nothing else can happen.
-/

namespace TemplateLint.Dispatch

open Report

/-! ## What can be seen -/

inductive Event where
  | called (path : Path)
  | reported (block : Block)
  deriving DecidableEq, Repr

/-- An event and its time. -/
structure Entry where
  time : Nat
  event : Event
  deriving DecidableEq, Repr

def Event.path? : Event → Option Path
  | .called path => some path
  | .reported _ => none

def Event.block? : Event → Option Block
  | .called _ => none
  | .reported block => some block

/-- The calls of the linter, with their times. -/
def callsOf (log : List Entry) : List (Nat × Path) :=
  log.filterMap fun entry =>
    entry.event.path?.map fun path => (entry.time, path)

/-- The reported blocks, with their times. -/
def reportsOf (log : List Entry) : List (Nat × Block) :=
  log.filterMap fun entry =>
    entry.event.block?.map fun block => (entry.time, block)

/-- Blocks that are reported at some time. -/
def reportedAt (time : Nat) (blocks : List Block) : List Entry :=
  blocks.map fun block => ⟨time, .reported block⟩

/-- What was seen of a run that is over, when it was over, and how it ended. -/
structure History where
  log : List Entry
  time : Nat
  ending : Except RunFailure Summary

/-- What a history comes to when its times are left out. -/
def History.result (history : History) : RunResult where
  blocks := (reportsOf history.log).map Prod.snd
  calls := (callsOf history.log).map Prod.snd
  ending := history.ending

/-! ## States -/

/-- Submit a task. -/
def Schedule.submit {Task : Type} (schedule : Schedule Task) (task : Task) :
    Schedule Task :=
  { schedule with queued := schedule.queued ++ [task] }

/-- A run that is under way. -/
structure RunState where
  now : Nat
  /-- The inputs that have not been resolved. -/
  inputs : List String
  /-- What is left to be dealt with of the last input that was resolved. -/
  items : List Item
  schedule : Schedule Path
  /-- The tasks that are over and whose replies have not been taken. -/
  waiting : List Path
  /-- The tasks whose replies have been taken, in order. -/
  taken : List Path
  outcomes : List (Path × Outcome)
  log : List Entry

namespace RunState

def initial (settings : Settings) (inputs : List String) : RunState where
  now := 0
  inputs := inputs
  items := []
  schedule := .initial (slotsFor settings.jobs) []
  waiting := []
  taken := []
  outcomes := []
  log := []

/-- See an event now. -/
def observe (event : Event) (state : RunState) : RunState :=
  { state with log := state.log ++ [⟨state.now, event⟩] }

/-- Report the outcome of a path, unless its block has no lines, and keep
it. -/
def settle (color : Bool) (path : Path) (outcome : Outcome)
    (state : RunState) : RunState :=
  { state with
    outcomes := state.outcomes ++ [(path, outcome)]
    log := state.log ++
      reportedAt state.now (blocksOf color [(path, outcome)]) }

/-! ## Steps -/

section Steps

variable (settings : Settings) (tree : FileTree) (engine : Engine)

/-- When a task that is started now is over. -/
def endOf (state : RunState) (path : Path) : Nat :=
  state.now + (engine path).delay

/-- All inputs have been dealt with. -/
structure AllSubmitted (state : RunState) : Prop where
  inputs : state.inputs = []
  items : state.items = []

inductive Step : RunState → RunState → Prop
  /-- The next input is resolved. -/
  | resolve {source : RunState} {input : String} {inputs : List String} :
      source.items = [] → source.inputs = input :: inputs →
        Step source
          { source with
            inputs := inputs
            items := itemsOfInput tree defaultExtensions input }
  /-- A path that is not linted is reported at once. -/
  | report {source : RunState} {path : Path} {outcome : Outcome}
      {items : List Item} :
      source.items = .settled path outcome :: items →
        Step source
          ({ source with items := items }.settle settings.color path outcome)
  /-- A file is submitted to be linted. -/
  | submit {source : RunState} {path : Path} {items : List Item} :
      source.items = .submitted path :: items →
        Step source
          { source with
            items := items
            schedule := source.schedule.submit path }
  /-- The first task in the queue gets a slot and calls the linter. -/
  | start {source : RunState} {path : Path} {queued : List Path}
      {schedule : Schedule Path} :
      source.schedule.queued = path :: queued →
      source.schedule.start? (source.endOf engine) = some schedule →
        Step source
          ({ source with schedule := schedule }.observe (.called path))
  /-- A task whose time has come is over and gives its slot back. -/
  | finish {source : RunState} {flight : Flight Path}
      {others : List (Flight Path)} :
      Schedule.earliest? source.schedule.inFlight = some (flight, others) →
      flight.ends ≤ source.now →
        Step source
          { source with
            schedule := source.schedule.settle flight others
            waiting := source.waiting ++ [flight.task] }
  /-- The reply of the first task that is over is taken. -/
  | take {source : RunState} {path : Path} {waiting : List Path}
      {outcome : Outcome} :
      source.AllSubmitted → source.waiting = path :: waiting →
      (engine path).reply.toOutcome path = .ok outcome →
        Step source
          ({ source with
              waiting := waiting
              taken := source.taken ++ [path] }.settle settings.color path
            outcome)
  /-- Nothing else can happen, and time passes until a task is over. -/
  | wait {source : RunState} {flight : Flight Path}
      {others : List (Flight Path)} :
      source.AllSubmitted → source.waiting = [] →
      source.schedule.start? (source.endOf engine) = none →
      Schedule.earliest? source.schedule.inFlight = some (flight, others) →
      source.now < flight.ends →
        Step source { source with now := flight.ends }

/-- How a run can be over. -/
inductive Ends : RunState → History → Prop
  /-- A reply that is taken ends the run. -/
  | fail {last : RunState} {path : Path} {waiting : List Path}
      {failure : RunFailure} :
      last.AllSubmitted → last.waiting = path :: waiting →
      (engine path).reply.toOutcome path = .error failure →
        Ends last ⟨last.log, last.now, .error failure⟩
  /-- All replies have been taken, and the summary is reported. -/
  | close {last : RunState} {summary : Summary} :
      last.AllSubmitted → last.waiting = [] →
      last.schedule.queued = [] → last.schedule.inFlight = [] →
      summary = summaryOf last.outcomes →
        Ends last
          ⟨(last.observe
              (.reported (summaryBlock settings.color summary))).log,
            last.now, .ok summary⟩

inductive Reaches (source : RunState) : RunState → Prop
  | refl : Reaches source source
  | step {middle target : RunState} :
      Reaches source middle → Step settings tree engine middle target →
        Reaches source target

end Steps

end RunState

/-- Some execution of the run has this history. -/
def CanEndWith (settings : Settings) (tree : FileTree) (engine : Engine)
    (inputs : List String) (history : History) : Prop :=
  ∃ last,
    RunState.Reaches settings tree engine
      (RunState.initial settings inputs) last ∧
    RunState.Ends settings engine last history

@[simp]
theorem callsOf_nil : callsOf [] = [] := rfl

@[simp]
theorem reportsOf_nil : reportsOf [] = [] := rfl

@[simp]
theorem callsOf_cons_called (time : Nat) (path : Path) (log : List Entry) :
    callsOf (⟨time, .called path⟩ :: log) = (time, path) :: callsOf log := rfl

@[simp]
theorem reportsOf_cons_called (time : Nat) (path : Path) (log : List Entry) :
    reportsOf (⟨time, .called path⟩ :: log) = reportsOf log := rfl

@[simp]
theorem callsOf_append (left right : List Entry) :
    callsOf (left ++ right) = callsOf left ++ callsOf right :=
  List.filterMap_append

@[simp]
theorem reportsOf_append (left right : List Entry) :
    reportsOf (left ++ right) = reportsOf left ++ reportsOf right :=
  List.filterMap_append

@[simp]
theorem callsOf_reportedAt (time : Nat) (blocks : List Block) :
    callsOf (reportedAt time blocks) = [] := by
  simp [callsOf, reportedAt, Event.path?]

@[simp]
theorem reportsOf_reportedAt (time : Nat) (blocks : List Block) :
    reportsOf (reportedAt time blocks) =
      blocks.map (fun block => (time, block)) := by
  induction blocks with
  | nil => rfl
  | cons block rest inductionHypothesis =>
      exact congrArg ((time, block) :: ·) inductionHypothesis

@[simp]
theorem reportedAt_append (time : Nat) (left right : List Block) :
    reportedAt time (left ++ right) =
      reportedAt time left ++ reportedAt time right :=
  List.map_append

namespace RunState

variable (state : RunState)

@[simp]
theorem callsOf_observe_called (path : Path) :
    callsOf (state.observe (.called path)).log =
      callsOf state.log ++ [(state.now, path)] :=
  callsOf_append _ _

@[simp]
theorem reportsOf_observe_called (path : Path) :
    reportsOf (state.observe (.called path)).log =
      reportsOf state.log := by
  rw [observe, reportsOf_append]
  exact List.append_nil _

@[simp]
theorem callsOf_observe_reported (block : Block) :
    callsOf (state.observe (.reported block)).log =
      callsOf state.log := by
  rw [observe, callsOf_append]
  exact List.append_nil _

@[simp]
theorem reportsOf_observe_reported (block : Block) :
    reportsOf (state.observe (.reported block)).log =
      reportsOf state.log ++ [(state.now, block)] :=
  reportsOf_append _ _

/-! ## Outcomes and the log -/

variable (color : Bool) (path : Path) (outcome : Outcome)

@[simp]
theorem callsOf_settle :
    callsOf (state.settle color path outcome).log =
      callsOf state.log := by
  rw [settle, callsOf_append, callsOf_reportedAt, List.append_nil]

@[simp]
theorem reportsOf_settle :
    reportsOf (state.settle color path outcome).log =
      reportsOf state.log ++
        (blocksOf color [(path, outcome)]).map
          (fun block => (state.now, block)) := by
  rw [settle, reportsOf_append, reportsOf_reportedAt]

end RunState

end TemplateLint.Dispatch
