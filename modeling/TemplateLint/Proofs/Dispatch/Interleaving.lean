import TemplateLint.Dispatch.Execution
import TemplateLint.Proofs.Dispatch.Continuation
import TemplateLint.Proofs.Dispatch.RunOutcome

/-!
# What every execution comes to

While a run is under way its tasks start and settle at the same time as its
inputs are still resolved.  What is left of its schedule, together with all
tasks that are still to be submitted, is nevertheless always what is left of
the schedule in which everything is submitted at the beginning.  So every
execution reports and ends as the run does, and only the last calls of a run
that fails are left open.
-/

namespace TemplateLint.Dispatch

open Report

/-! ## Results -/

/-- The same blocks, the same ending and, unless that is a failure, the same
calls. -/
structure RunResult.SameAs (left right : RunResult) : Prop where
  blocks : left.blocks = right.blocks
  ending : left.ending = right.ending
  calls : ∀ summary, right.ending = .ok summary → left.calls = right.calls

namespace RunResult.SameAs

theorem symm {left right : RunResult} (same : left.SameAs right) :
    right.SameAs left where
  blocks := same.blocks.symm
  ending := same.ending.symm
  calls summary succeeds :=
    (same.calls summary (same.ending.symm.trans succeeds)).symm

theorem trans {left middle right : RunResult} (first : left.SameAs middle)
    (second : middle.SameAs right) : left.SameAs right where
  blocks := first.blocks.trans second.blocks
  ending := first.ending.trans second.ending
  calls summary succeeds :=
    (first.calls summary (second.ending.trans succeeds)).trans
      (second.calls summary succeeds)

end RunResult.SameAs

namespace RunState

/-! ## What is still to be done -/

section Pending

variable (tree : FileTree) (state : RunState)

/-- The items that have not been dealt with, those of the inputs that have not
been resolved among them. -/
def pending : List Item :=
  state.items ++ itemsOf tree defaultExtensions state.inputs

/-- The schedule with everything in the queue that is still to be
submitted. -/
def whole : Schedule Path :=
  { state.schedule with
    queued := state.schedule.queued ++
      submissions (state.pending tree) }

variable {tree state}

theorem AllSubmitted.pending_eq_nil (submitted : state.AllSubmitted) :
    state.pending tree = [] := by
  rw [pending, submitted.items, submitted.inputs]
  rfl

theorem whole_congr {other : RunState}
    (schedule : other.schedule = state.schedule)
    (same : submissions (other.pending tree) =
      submissions (state.pending tree)) :
    other.whole tree = state.whole tree := by
  rw [whole, whole, schedule, same]

theorem AllSubmitted.whole_eq (submitted : state.AllSubmitted) :
    state.whole tree = state.schedule := by
  rw [whole, submitted.pending_eq_nil, submissions_nil, List.append_nil]

variable (tree)

theorem pending_of_items {item : Item} {items : List Item}
    (next : state.items = item :: items) :
    state.pending tree =
      item :: { state with items := items }.pending tree := by
  rw [pending, next]
  rfl

theorem pending_of_inputs {input : String} {inputs : List String}
    (done : state.items = []) (next : state.inputs = input :: inputs) :
    state.pending tree =
      { state with
        inputs := inputs
        items := itemsOfInput tree defaultExtensions input }.pending
          tree := by
  rw [pending, done, next]
  rfl

theorem whole_of_inputs {input : String} {inputs : List String}
    (done : state.items = []) (next : state.inputs = input :: inputs) :
    { state with
      inputs := inputs
      items := itemsOfInput tree defaultExtensions input }.whole tree =
        state.whole tree :=
  whole_congr rfl
    (congrArg submissions (pending_of_inputs tree done next).symm)

theorem whole_of_settled {path : Path} {outcome : Outcome}
    {items : List Item}
    (next : state.items = .settled path outcome :: items)
    (color : Bool) :
    ({ state with items := items }.settle color path outcome).whole
      tree = state.whole tree :=
  whole_congr rfl (congrArg submissions (pending_of_items tree next)).symm

theorem whole_of_submitted {path : Path} {items : List Item}
    (next : state.items = .submitted path :: items) :
    { state with
      items := items
      schedule := state.schedule.submit path }.whole tree =
        state.whole tree := by
  rw [whole, whole, pending_of_items tree next]
  exact congrArg (fun queued => { state.schedule with queued := queued })
    (List.append_assoc _ _ _)

/-- A task that is started can be started from the whole queue as well. -/
theorem whole_start? {endOf : Path → Nat} {schedule : Schedule Path}
    (starts : state.schedule.start? endOf = some schedule) :
    (state.whole tree).start? endOf =
      some ({ state with schedule := schedule }.whole tree) := by
  obtain ⟨task, queued, slots, queuedEq, taken, rfl⟩ :=
    (Schedule.start?_eq_some_iff _ _ _).mp starts
  rw [Schedule.start?_eq_some_iff]
  refine ⟨task, queued ++ submissions (state.pending tree), slots, ?_,
    taken, rfl⟩
  rw [whole, queuedEq, List.cons_append]

end Pending

/-! ## What an execution keeps to -/

variable (settings : Settings) (tree : FileTree) (engine : Engine)
  (inputs : List String)

/-- An execution keeps to the schedule of all the files, and to the outcomes
that the run reports. -/
structure Consistent (state : RunState) : Prop where
  reachable : Schedule.Reachable
    (.initial (slotsFor settings.jobs) (inputs.flatMap (lintedFiles tree)))
    (state.whole tree)
  completes :
    Schedule.complete (fun path => (engine path).delay) state.now
        (state.whole tree) =
      courseOf settings engine (inputs.flatMap (lintedFiles tree))
  notOver : ∀ flight ∈ state.schedule.inFlight,
    state.now ≤ flight.ends
  settled : state.schedule.settled = state.taken ++ state.waiting
  continues : ∀ path ∈ state.taken, (engine path).reply.endsRun = false
  outcomes :
    state.outcomes ++ settledAtOnce (state.pending tree) =
      inputs.filterMap (settledInput? tree) ++
        state.taken.filterMap (settledFile? engine)
  reports : (reportsOf state.log).map Prod.snd =
    blocksOf settings.color state.outcomes
  calls : (callsOf state.log).map Prod.snd = state.schedule.started

theorem consistent_initial :
    Consistent settings tree engine inputs (initial settings inputs) := by
  have whole : (initial settings inputs).whole tree =
      .initial (slotsFor settings.jobs)
        (inputs.flatMap (lintedFiles tree)) := by
    rw [← submissions_itemsOf]
    rfl
  constructor
  case reachable => exact whole ▸ .refl
  case completes =>
    rw [whole]
    exact Schedule.complete_initial _ _ _
  case notOver =>
    intro flight member
    cases member
  case settled => rfl
  case continues =>
    intro path member
    cases member
  case outcomes =>
    rw [← settledAtOnce_itemsOf]
    exact (List.append_nil _).symm
  case reports => rfl
  case calls => rfl

variable {settings tree engine inputs}

/-- Reporting an outcome keeps what has been reported in step with the
outcomes. -/
theorem reports_settle {state : RunState} {color : Bool}
    (reports : (reportsOf state.log).map Prod.snd =
      blocksOf color state.outcomes)
    (path : Path) (outcome : Outcome) :
    (reportsOf (state.settle color path outcome).log).map Prod.snd =
      blocksOf color (state.settle color path outcome).outcomes := by
  rw [reportsOf_settle, List.map_append, reports, settle, blocksOf_append]
  simp [Function.comp_def]

namespace Consistent

variable {source : RunState}
  (consistent : Consistent settings tree engine inputs source)

include consistent

theorem resolve {input : String} {rest : List String}
    (done : source.items = []) (next : source.inputs = input :: rest) :
    Consistent settings tree engine inputs
      { source with
        inputs := rest
        items := itemsOfInput tree defaultExtensions input } := by
  have pending := pending_of_inputs tree done next
  have whole := whole_of_inputs tree done next
  exact
    { consistent with
      reachable := whole ▸ consistent.reachable
      completes := whole ▸ consistent.completes
      outcomes := pending ▸ consistent.outcomes }

theorem report {path : Path} {outcome : Outcome} {items : List Item}
    (next : source.items = .settled path outcome :: items) :
    Consistent settings tree engine inputs
      ({ source with items := items }.settle settings.color path
        outcome) := by
  have pending := pending_of_items tree next
  have whole := whole_of_settled tree next settings.color
  have outcomes := consistent.outcomes
  rw [pending] at outcomes
  exact
    { consistent with
      reachable := whole ▸ consistent.reachable
      completes := whole ▸ consistent.completes
      outcomes := (List.append_assoc _ _ _).trans outcomes
      reports := reports_settle consistent.reports path outcome
      calls := by
        rw [callsOf_settle]
        exact consistent.calls }

theorem submit {path : Path} {items : List Item}
    (next : source.items = .submitted path :: items) :
    Consistent settings tree engine inputs
      { source with
        items := items
        schedule := source.schedule.submit path } := by
  have pending := pending_of_items tree next
  have whole := whole_of_submitted tree next
  have outcomes := consistent.outcomes
  rw [pending] at outcomes
  exact
    { consistent with
      reachable := whole ▸ consistent.reachable
      completes := whole ▸ consistent.completes
      outcomes := outcomes }

theorem start {path : Path} {queued : List Path} {schedule : Schedule Path}
    (next : source.schedule.queued = path :: queued)
    (starts : source.schedule.start? (source.endOf engine) =
      some schedule) :
    Consistent settings tree engine inputs
      ({ source with schedule := schedule }.observe (.called path)) := by
  have wholeStarts := whole_start? tree starts
  have completes := (Schedule.complete_of_start? wholeStarts).symm.trans
    consistent.completes
  have reachable := consistent.reachable.step (.start _ wholeStarts)
  obtain ⟨task, others, slots, queuedEq, _, rfl⟩ :=
    (Schedule.start?_eq_some_iff _ _ _).mp starts
  obtain ⟨rfl, rfl⟩ := List.cons.inj (queuedEq.symm.trans next)
  exact
    { consistent with
      reachable := reachable
      completes := completes
      notOver := by
        intro flight member
        rcases List.mem_append.mp member with earlier | started
        · exact consistent.notOver flight earlier
        · rw [List.mem_singleton.mp started]
          exact Nat.le_add_right _ _
      reports := by
        rw [reportsOf_observe_called]
        exact consistent.reports
      calls := by
        rw [callsOf_observe_called, List.map_append]
        exact congrArg (· ++ [task]) consistent.calls }

theorem finish {flight : Flight Path} {others : List (Flight Path)}
    (first : Schedule.earliest? source.schedule.inFlight =
      some (flight, others))
    (isOver : flight.ends ≤ source.now) :
    Consistent settings tree engine inputs
      { source with
        schedule := source.schedule.settle flight others
        waiting := source.waiting ++ [flight.task] } := by
  have inFlight := Schedule.mem_of_earliest? first
  have endsNow : flight.ends = source.now :=
    Nat.le_antisymm isOver (consistent.notOver flight inFlight.1)
  have wholeFirst :
      Schedule.earliest? (source.whole tree).inFlight =
        some (flight, others) := first
  exact
    { consistent with
      reachable := consistent.reachable.trans
        (Schedule.settle_reachable_of_earliest? wholeFirst)
      completes := (Schedule.complete_settle wholeFirst endsNow).trans
        consistent.completes
      notOver := fun other member =>
        consistent.notOver other (inFlight.2 other member)
      settled := by
        rw [Schedule.settle_settled, consistent.settled, List.append_assoc] }

theorem take {path : Path} {waiting : List Path} {outcome : Outcome}
    (submitted : source.AllSubmitted)
    (next : source.waiting = path :: waiting)
    (settles : (engine path).reply.toOutcome path = .ok outcome) :
    Consistent settings tree engine inputs
      ({ source with
          waiting := waiting
          taken := source.taken ++ [path] }.settle settings.color path
        outcome) := by
  have file := (settledFile?_eq_some_iff engine path path outcome).mpr
    ⟨rfl, settles⟩
  have taken : (source.taken ++ [path]).filterMap (settledFile? engine) =
      source.taken.filterMap (settledFile? engine) ++ [(path, outcome)] := by
    simp [file]
  have outcomes := consistent.outcomes
  rw [submitted.pending_eq_nil, settledAtOnce_nil, List.append_nil]
    at outcomes
  have settled := consistent.settled
  rw [next] at settled
  exact
    { consistent with
      settled := settled.trans (List.append_assoc _ [path] waiting).symm
      continues := by
        intro other member
        rcases List.mem_append.mp member with earlier | last
        · exact consistent.continues other earlier
        · rw [List.mem_singleton.mp last]
          exact Reply.endsRun_of_toOutcome_eq_ok settles
      outcomes := by
        change (source.outcomes ++ [(path, outcome)]) ++
            settledAtOnce (source.pending tree) =
          inputs.filterMap (settledInput? tree) ++
            (source.taken ++ [path]).filterMap (settledFile? engine)
        rw [submitted.pending_eq_nil, settledAtOnce_nil, List.append_nil,
          taken, outcomes, List.append_assoc]
      reports := reports_settle consistent.reports path outcome
      calls := by
        rw [callsOf_settle]
        exact consistent.calls }

theorem wait {later : Nat} {flight : Flight Path}
    {others : List (Flight Path)} (submitted : source.AllSubmitted)
    (blocked : source.schedule.start? (source.endOf engine) = none)
    (first : Schedule.earliest? source.schedule.inFlight =
      some (flight, others)) (isEnd : later = flight.ends) :
    Consistent settings tree engine inputs { source with now := later } := by
  have wholeBlocked : (source.whole tree).start? (source.endOf engine) =
      none := by
    rw [submitted.whole_eq]
    exact blocked
  exact
    { consistent with
      completes := (Schedule.complete_of_blocked wholeBlocked later).trans
        consistent.completes
      notOver := fun other member =>
        isEnd ▸ Schedule.ends_le_of_earliest? first other member }

/-- No step leaves the course of the run. -/
theorem step {target : RunState}
    (steps : Step settings tree engine source target) :
    Consistent settings tree engine inputs target := by
  cases steps with
  | resolve done next => exact consistent.resolve done next
  | report next => exact consistent.report next
  | submit next => exact consistent.submit next
  | start next starts => exact consistent.start next starts
  | finish first isOver => exact consistent.finish first isOver
  | take submitted next settles => exact consistent.take submitted next settles
  | wait submitted _ blocked first _ =>
      exact consistent.wait submitted blocked first rfl

theorem reaches {last : RunState}
    (reaches : Reaches settings tree engine source last) :
    Consistent settings tree engine inputs last := by
  induction reaches with
  | refl => exact consistent
  | step _ steps inductionHypothesis => exact inductionHypothesis.step steps

/-! ## Being over -/

/-- When everything has been submitted, the outcomes are those of what was
reported at once and of the files whose replies have been taken. -/
theorem outcomes_eq (submitted : source.AllSubmitted) :
    source.outcomes = settledOutcomes tree engine inputs source.taken := by
  have outcomes := consistent.outcomes
  rwa [submitted.pending_eq_nil, settledAtOnce_nil, List.append_nil]
    at outcomes

theorem blocks_eq (submitted : source.AllSubmitted) :
    (reportsOf source.log).map Prod.snd =
      reportedBlocks tree engine inputs settings.color source.taken := by
  rw [consistent.reports, consistent.outcomes_eq submitted,
    blocksOf_settledOutcomes]

/-- The files that are over are the first ones in the order in which the files
of the run settle. -/
theorem settled_prefix :
    source.taken ++ source.waiting <+:
      settlingOrder settings engine (inputs.flatMap (lintedFiles tree)) := by
  have reachable := Schedule.complete_reachable
    (fun path => (engine path).delay) source.now (source.whole tree)
  rw [consistent.completes] at reachable
  exact consistent.settled ▸ reachable.settled_prefix

theorem calls_prefix :
    (callsOf source.log).map Prod.snd <+:
      (run settings tree engine inputs).calls := by
  have reachable := Schedule.complete_reachable
    (fun path => (engine path).delay) source.now (source.whole tree)
  rw [consistent.completes] at reachable
  rw [consistent.calls, run_calls,
    ← courseOf_started settings engine (inputs.flatMap (lintedFiles tree))]
  exact reachable.started_prefix

theorem fail {path : Path} {waiting : List Path} {failure : RunFailure}
    (submitted : source.AllSubmitted)
    (next : source.waiting = path :: waiting)
    (fails : (engine path).reply.toOutcome path = .error failure) :
    (History.mk source.log source.now (.error failure)).result.SameAs
      (run settings tree engine inputs) := by
  obtain ⟨after, order⟩ := consistent.settled_prefix
  rw [next, List.append_assoc, List.cons_append] at order
  obtain ⟨blocks, ending⟩ := run_of_endsRun settings tree engine inputs
    order.symm consistent.continues fails
  exact
    { blocks := (consistent.blocks_eq submitted).trans blocks.symm
      ending := ending.symm
      calls := fun summary succeeds => by
        cases succeeds.symm.trans ending }

theorem close {summary : Summary} (submitted : source.AllSubmitted)
    (taken : source.waiting = []) (queued : source.schedule.queued = [])
    (landed : source.schedule.inFlight = [])
    (isSummary : summary = summaryOf source.outcomes) :
    (History.mk
        (source.observe
          (.reported (summaryBlock settings.color summary))).log
        source.now (.ok summary)).result.SameAs
      (run settings tree engine inputs) := by
  have course : source.schedule =
      courseOf settings engine (inputs.flatMap (lintedFiles tree)) := by
    have completes := consistent.completes
    rwa [submitted.whole_eq, Schedule.complete_of_settled queued landed]
      at completes
  have order : settlingOrder settings engine
      (inputs.flatMap (lintedFiles tree)) = source.taken := by
    rw [settlingOrder, ← course, consistent.settled, taken, List.append_nil]
  have continues : ∀ path ∈ inputs.flatMap (lintedFiles tree),
      (engine path).reply.endsRun = false := fun path member =>
    consistent.continues path
      (order ▸ (settlingOrder_perm settings engine _).mem_iff.mpr member)
  have complete :=
    run_of_continues settings tree engine inputs order continues
  rw [← consistent.outcomes_eq submitted, ← isSummary] at complete
  rw [complete]
  exact
    { blocks := by
        simp only [History.result, reportsOf_observe_reported,
          List.map_append, consistent.blocks_eq submitted]
        rfl
      ending := rfl
      calls := fun _ _ => by
        simp only [History.result, callsOf_observe_reported]
        rw [consistent.calls, course, courseOf_started] }

end Consistent

end RunState

/-! ## Executions that are over -/

variable {settings : Settings} {tree : FileTree} {engine : Engine}
  {inputs : List String} {history : History}

/-- Every execution reports and ends as the run does, and calls the linter for
the same files unless the run fails. -/
theorem CanEndWith.sameAs_run
    (ends : CanEndWith settings tree engine inputs history) :
    history.result.SameAs (run settings tree engine inputs) := by
  obtain ⟨last, reaches, ends⟩ := ends
  have consistent := (RunState.consistent_initial settings tree engine
    inputs).reaches reaches
  cases ends with
  | fail submitted next fails => exact consistent.fail submitted next fails
  | close submitted taken queued landed isSummary =>
      exact consistent.close submitted taken queued landed isSummary

/-- A run that fails may break off before all its calls have been made. -/
theorem CanEndWith.calls_prefix
    (ends : CanEndWith settings tree engine inputs history) :
    history.result.calls <+: (run settings tree engine inputs).calls := by
  obtain ⟨last, reaches, ends⟩ := ends
  have consistent := (RunState.consistent_initial settings tree engine
    inputs).reaches reaches
  cases ends with
  | fail _ _ _ => exact consistent.calls_prefix
  | close _ _ _ _ _ =>
      rw [History.result, RunState.callsOf_observe_reported]
      exact consistent.calls_prefix

end TemplateLint.Dispatch
