import TemplateLint.Proofs.Dispatch.Interleaving
import TemplateLint.Proofs.Dispatch.OneByOne

/-!
# A single slot

With one slot no task is started before the one submitted ahead of it has
settled, however long it takes.  A run with a single job is therefore linting
the files one by one, in the order of the inputs.
-/

namespace TemplateLint.Dispatch

open Report

namespace Schedule

variable {Task : Type}

/-! ## Schedules with one slot -/

/-- Tasks are settled, in flight and queued in the order in which they were
submitted. -/
def InTurn (tasks : List Task) (schedule : Schedule Task) : Prop :=
  schedule.settled ++
    (schedule.inFlight.map Flight.task ++ schedule.queued) = tasks

/-- A single flight is all that is in flight. -/
theorem Accounts.before_after_eq_nil {tasks : List Task}
    {schedule : Schedule Task} (accounts : Accounts (.free 1) tasks schedule)
    {flight : Flight Task} {before after : List (Flight Task)}
    (inFlight : schedule.inFlight = before ++ flight :: after) :
    before = [] ∧ after = [] := by
  have atMostOne := accounts.inFlight_length_le
  rw [inFlight, List.length_append, List.length_cons] at atMostOne
  constructor <;> apply List.eq_nil_of_length_eq_zero <;> omega

theorem InTurn.step {tasks : List Task} {source target : Schedule Task}
    (accounts : Accounts (.free 1) tasks source)
    (inTurn : InTurn tasks source) (steps : Step source target) :
    InTurn tasks target := by
  unfold InTurn at inTurn ⊢
  cases steps with
  | start endOf starts =>
      obtain ⟨task, queued, _, queuedEq, _, rfl⟩ :=
        (start?_eq_some_iff endOf source target).mp starts
      simpa [queuedEq] using inTurn
  | settle flight before after inFlight =>
      obtain ⟨rfl, rfl⟩ := accounts.before_after_eq_nil inFlight
      simpa [inFlight, settle] using inTurn

/-- Whatever the tasks take, a single slot keeps them in turn. -/
theorem inTurn_of_reachable {tasks : List Task} {schedule : Schedule Task}
    (reachable : Reachable (initial (.free 1) tasks) schedule) :
    InTurn tasks schedule := by
  induction reachable with
  | refl => simp [InTurn, initial]
  | step reached steps inductionHypothesis =>
      exact inductionHypothesis.step
        ((accounts_initial _ tasks).reachable reached) steps

/-- What was started has settled or is in flight, in that order. -/
theorem InTurn.started_eq {tasks : List Task} {schedule : Schedule Task}
    (inTurn : InTurn tasks schedule)
    (accounts : Accounts (.free 1) tasks schedule) :
    schedule.started =
      schedule.settled ++ schedule.inFlight.map Flight.task := by
  unfold InTurn at inTurn
  rw [← List.append_assoc] at inTurn
  exact List.append_cancel_right
    (accounts.started_append_queued.trans inTurn.symm)

/-- Nothing is in flight when the slot is free. -/
theorem Accounts.landed_of_start? {tasks : List Task}
    {source target : Schedule Task}
    (accounts : Accounts (.free 1) tasks source) {endOf : Task → Nat}
    (starts : source.start? endOf = some target) : source.inFlight = [] := by
  obtain ⟨_, _, slots, _, taken, _⟩ :=
    (start?_eq_some_iff endOf source target).mp starts
  have notFull : source.inFlight.length ≠ 1 := fun full => by
    rw [accounts.slots_eq_free_zero_iff.mpr full] at taken
    cases taken
  have atMostOne := accounts.inFlight_length_le
  exact List.eq_nil_of_length_eq_zero (by omega)

end Schedule

/-! ## Executions with a single job -/

theorem slotsFor_one : slotsFor (some 1) = .free 1 := by
  rw [slotsFor_of_ne_zero (by decide)]
  rfl

/-- A history in which the files are linted at the same times as in another
one, and in which everything is reported at the same times.  The linter may be
called for more files at the very end, if that is a failure. -/
structure History.KeepsTo (history plain : History) : Prop where
  ending : history.ending = plain.ending
  time : history.time = plain.time
  reports : reportsOf history.log = reportsOf plain.log
  calls : ∃ more,
    callsOf history.log = callsOf plain.log ++ more ∧
    (∀ call ∈ more, call.1 = plain.time) ∧
    ∀ summary, plain.ending = .ok summary → more = []

namespace RunState

variable {settings : Settings} {tree : FileTree} {engine : Engine}
  {inputs : List String} {source : RunState}

namespace Consistent

variable (consistent : Consistent settings tree engine inputs source)
  (single : settings.jobs = some 1)

include consistent single

theorem accounts_single :
    Schedule.Accounts (.free 1) (inputs.flatMap (lintedFiles tree))
      (source.whole tree) := by
  have reachable := consistent.reachable
  rw [single, slotsFor_one] at reachable
  exact (Schedule.accounts_initial _ _).reachable reachable

theorem inTurn :
    Schedule.InTurn (inputs.flatMap (lintedFiles tree))
      (source.whole tree) := by
  have reachable := consistent.reachable
  rw [single, slotsFor_one] at reachable
  exact Schedule.inTurn_of_reachable reachable

theorem started_single :
    source.schedule.started =
      source.schedule.settled ++
        source.schedule.inFlight.map Flight.task :=
  (consistent.inTurn single).started_eq (consistent.accounts_single single)

theorem started_of_waiting {path : Path} {waiting : List Path}
    (next : source.waiting = path :: waiting) :
    source.schedule.started =
      source.taken ++ [path] ++
        (waiting ++ source.schedule.inFlight.map Flight.task) := by
  rw [consistent.started_single single, consistent.settled, next]
  simp

end Consistent

theorem blocksOf_settled_cons (color : Bool) (path : Path)
    (outcome : Outcome) (items : List Item) :
    blocksOf color (settledAtOnce (.settled path outcome :: items)) =
      blocksOf color [(path, outcome)] ++
        blocksOf color (settledAtOnce items) :=
  blocksOf_append color [(path, outcome)] (settledAtOnce items)

/-- An execution with a single job keeps to the times of linting the files one
by one. -/
structure Sequential (settings : Settings) (tree : FileTree)
    (engine : Engine) (inputs : List String) (state : RunState) :
    Prop where
  beginning : state.inputs ≠ [] ∨ state.items ≠ [] →
    state.now = 0
  passed : elapsed engine state.schedule.settled ≤ state.now
  idle : state.schedule.inFlight = [] →
    state.now = elapsed engine state.schedule.settled
  flights : ∀ flight ∈ state.schedule.inFlight,
    flight.ends = elapsed engine (state.schedule.settled ++ [flight.task])
  waited : ∀ path rest, state.waiting = path :: rest →
    state.now ≤ elapsed engine (state.taken ++ [path])
  past : ∀ call ∈ callsOf state.log, call.1 ≤ state.now
  calls : callsOf state.log =
    callsOf (entriesFrom settings.color engine 0 state.schedule.started)
  reports :
    reportsOf state.log ++
        (blocksOf settings.color (settledAtOnce (state.pending tree))).map
          (fun block => (0, block)) =
      reportsOf (entriesAtOnce settings.color tree inputs) ++
        reportsOf (entriesFrom settings.color engine 0 state.taken)

namespace Sequential

variable (consistent : Consistent settings tree engine inputs source)
  (sequential : Sequential settings tree engine inputs source)

include sequential

theorem reports_eq (submitted : source.AllSubmitted) :
    reportsOf source.log =
      reportsOf (entriesAtOnce settings.color tree inputs) ++
        reportsOf (entriesFrom settings.color engine 0 source.taken) := by
  have reports := sequential.reports
  rw [submitted.pending_eq_nil] at reports
  simpa using reports

theorem resolve {input : String} {rest : List String}
    (done : source.items = []) (next : source.inputs = input :: rest) :
    Sequential settings tree engine inputs
      { source with
        inputs := rest
        items := itemsOfInput tree defaultExtensions input } := by
  have now := sequential.beginning (Or.inl (by simp [next]))
  exact
    { sequential with
      beginning := fun _ => now
      reports := pending_of_inputs tree done next ▸
        sequential.reports }

theorem report {path : Path} {outcome : Outcome} {items : List Item}
    (next : source.items = .settled path outcome :: items) :
    Sequential settings tree engine inputs
      ({ source with items := items }.settle settings.color path
        outcome) := by
  have now := sequential.beginning (Or.inr (by simp [next]))
  have reports := sequential.reports
  rw [pending_of_items tree next, blocksOf_settled_cons,
    List.map_append, ← List.append_assoc] at reports
  exact
    { sequential with
      beginning := fun _ => now
      past := by
        rw [callsOf_settle]
        exact sequential.past
      calls := by
        rw [callsOf_settle]
        exact sequential.calls
      reports := by
        simp only [reportsOf_settle, now]
        exact reports }

theorem submit {path : Path} {items : List Item}
    (next : source.items = .submitted path :: items) :
    Sequential settings tree engine inputs
      { source with
        items := items
        schedule := source.schedule.submit path } := by
  have now := sequential.beginning (Or.inr (by simp [next]))
  have reports := sequential.reports
  rw [pending_of_items tree next] at reports
  exact
    { sequential with
      beginning := fun _ => now
      reports := reports }

theorem wait {flight : Flight Path} {others : List (Flight Path)}
    (submitted : source.AllSubmitted) (taken : source.waiting = [])
    (first : Schedule.earliest? source.schedule.inFlight =
      some (flight, others)) (later : source.now < flight.ends) :
    Sequential settings tree engine inputs
      { source with now := flight.ends } := by
  have inFlight := (Schedule.mem_of_earliest? first).1
  exact
    { sequential with
      beginning := by
        rintro (moreInputs | moreItems)
        · exact absurd submitted.inputs moreInputs
        · exact absurd submitted.items moreItems
      passed := Nat.le_trans sequential.passed (Nat.le_of_lt later)
      idle := fun landed => by
        have landed : source.schedule.inFlight = [] := landed
        rw [landed] at inFlight
        cases inFlight
      waited := fun path rest next => by cases taken.symm.trans next
      past := fun call member =>
        Nat.le_trans (sequential.past call member) (Nat.le_of_lt later) }

include consistent

theorem start (single : settings.jobs = some 1) {path : Path}
    {queued : List Path} {schedule : Schedule Path}
    (next : source.schedule.queued = path :: queued)
    (starts : source.schedule.start? (source.endOf engine) =
      some schedule) :
    Sequential settings tree engine inputs
      ({ source with schedule := schedule }.observe (.called path)) := by
  have landed : source.schedule.inFlight = [] :=
    (consistent.accounts_single single).landed_of_start?
      (whole_start? tree starts)
  have now := sequential.idle landed
  have started := consistent.started_single single
  rw [landed, List.map_nil, List.append_nil] at started
  obtain ⟨task, others, slots, queuedEq, _, rfl⟩ :=
    (Schedule.start?_eq_some_iff _ _ _).mp starts
  obtain ⟨rfl, rfl⟩ := List.cons.inj (queuedEq.symm.trans next)
  exact
    { sequential with
      idle := fun flights => absurd flights (by simp [observe])
      flights := by
        intro flight member
        rw [landed] at member
        rw [List.mem_singleton.mp member]
        change source.now + (engine task).delay =
          elapsed engine (source.schedule.settled ++ [task])
        simp [now]
      past := by
        rw [callsOf_observe_called, List.forall_mem_append]
        exact ⟨sequential.past, by simp [observe]⟩
      calls := by
        rw [callsOf_observe_called, sequential.calls]
        change _ =
          callsOf (entriesFrom settings.color engine 0
            (source.schedule.started ++ [task]))
        rw [callsOf_entriesFrom_concat, Nat.zero_add, started, ← now]
      reports := by
        rw [reportsOf_observe_called]
        exact sequential.reports }

theorem finish (single : settings.jobs = some 1) {flight : Flight Path}
    {others : List (Flight Path)}
    (first : Schedule.earliest? source.schedule.inFlight =
      some (flight, others))
    (isOver : flight.ends ≤ source.now) :
    Sequential settings tree engine inputs
      { source with
        schedule := source.schedule.settle flight others
        waiting := source.waiting ++ [flight.task] } := by
  have inFlight := (Schedule.mem_of_earliest? first).1
  have endsNow : flight.ends = source.now :=
    Nat.le_antisymm isOver (consistent.notOver flight inFlight)
  have now := endsNow.symm.trans (sequential.flights flight inFlight)
  obtain ⟨before, after, flights, rfl⟩ :=
    Schedule.exists_append_of_earliest? first
  obtain ⟨rfl, rfl⟩ :=
    (consistent.accounts_single single).before_after_eq_nil flights
  exact
    { sequential with
      passed := Nat.le_of_eq now.symm
      idle := fun _ => now
      flights := fun other member => by cases member
      waited := by
        intro path rest next
        cases waitingEq : source.waiting with
        | cons earlier others =>
            rw [waitingEq, List.cons_append] at next
            obtain ⟨rfl, _⟩ := List.cons.inj next
            exact sequential.waited earlier others waitingEq
        | nil =>
            rw [waitingEq] at next
            obtain ⟨rfl, _⟩ := List.cons.inj next
            have settled := consistent.settled
            rw [waitingEq, List.append_nil] at settled
            rw [settled] at now
            exact Nat.le_of_eq now }

/-- A reply is taken at the time at which its file is over. -/
theorem now_of_waiting {path : Path} {waiting : List Path}
    (next : source.waiting = path :: waiting) :
    source.now = elapsed engine (source.taken ++ [path]) := by
  have waited := sequential.waited path waiting next
  have passed := sequential.passed
  rw [consistent.settled, next] at passed
  simp only [elapsed_append, elapsed_cons, elapsed_nil] at waited passed ⊢
  omega

theorem take {path : Path} {waiting : List Path} {outcome : Outcome}
    (submitted : source.AllSubmitted)
    (next : source.waiting = path :: waiting)
    (settles : (engine path).reply.toOutcome path = .ok outcome) :
    Sequential settings tree engine inputs
      ({ source with
          waiting := waiting
          taken := source.taken ++ [path] }.settle settings.color path
        outcome) := by
  have now := sequential.now_of_waiting consistent next
  have blocks := blocksOf_of_toOutcome settings.color engine settles
  exact
    { sequential with
      waited := by
        intro other rest _
        have longer := Nat.le_add_right
          (elapsed engine (source.taken ++ [path])) (elapsed engine [other])
        rw [← elapsed_append, ← now] at longer
        exact longer
      past := by
        rw [callsOf_settle]
        exact sequential.past
      calls := by
        rw [callsOf_settle]
        exact sequential.calls
      reports := by
        change reportsOf (settle settings.color path outcome _).log ++
            (blocksOf settings.color
              (settledAtOnce (source.pending tree))).map _ =
          _ ++ reportsOf (entriesFrom settings.color engine 0
            (source.taken ++ [path]))
        rw [submitted.pending_eq_nil, reportsOf_settle, blocks,
          reportsOf_entriesFrom_concat, Nat.zero_add, ← now,
          sequential.reports_eq submitted]
        simp }

/-- No step leaves the times of linting one by one. -/
theorem step (single : settings.jobs = some 1) {target : RunState}
    (steps : Step settings tree engine source target) :
    Sequential settings tree engine inputs target := by
  cases steps with
  | resolve done next => exact sequential.resolve done next
  | report next => exact sequential.report next
  | submit next => exact sequential.submit next
  | start next starts => exact sequential.start consistent single next starts
  | finish first isOver =>
      exact sequential.finish consistent single first isOver
  | take submitted next settles =>
      exact sequential.take consistent submitted next settles
  | wait submitted taken _ first later =>
      exact sequential.wait submitted taken first later

theorem reaches (single : settings.jobs = some 1) {last : RunState}
    (reaches : Reaches settings tree engine source last) :
    Sequential settings tree engine inputs last := by
  induction reaches with
  | refl => exact sequential
  | step reached steps inductionHypothesis =>
      exact inductionHypothesis.step (consistent.reaches reached) single steps

/-! ## Being over -/

/-- All calls behind the one for the file whose reply is next were made just
now: its slot has been free for no time. -/
theorem calls_of_waiting (single : settings.jobs = some 1) {path : Path}
    {waiting : List Path} (next : source.waiting = path :: waiting) :
    ∃ more,
      callsOf source.log =
        callsOf (entriesFrom settings.color engine 0
          (source.taken ++ [path])) ++ more ∧
      ∀ call ∈ more, call.1 = source.now := by
  have now := sequential.now_of_waiting consistent next
  have calls := sequential.calls
  rw [consistent.started_of_waiting single next,
    entriesFrom_append, callsOf_append, Nat.zero_add, ← now] at calls
  refine ⟨_, calls, fun call member => ?_⟩
  have past := sequential.past call
    (calls ▸ List.mem_append_right _ member)
  have late := time_le_of_mem_callsOf settings.color engine member
  exact Nat.le_antisymm past late

theorem fail (single : settings.jobs = some 1) {path : Path}
    {waiting : List Path} {failure : RunFailure}
    (submitted : source.AllSubmitted)
    (next : source.waiting = path :: waiting)
    (fails : (engine path).reply.toOutcome path = .error failure) :
    (History.mk source.log source.now (.error failure)).KeepsTo
      (lintOneByOne settings.color tree engine inputs
        (inputs.flatMap (lintedFiles tree))) := by
  let flying := source.schedule.inFlight.map Flight.task
  have now := sequential.now_of_waiting consistent next
  obtain ⟨more, calls, justNow⟩ :=
    sequential.calls_of_waiting consistent single next
  have inTurn := consistent.inTurn single
  rw [Schedule.InTurn, submitted.whole_eq, consistent.settled, next,
    List.append_assoc, List.cons_append] at inTurn
  have plain := lintOneByOne_of_error settings.color tree inputs
    consistent.continues fails (waiting ++ (flying ++ source.schedule.queued))
  rw [inTurn] at plain
  rw [callsOf_entriesFrom_concat, Nat.zero_add] at calls
  rw [plain]
  refine
    { ending := rfl
      time := now
      reports := ?reports
      calls := ⟨more, ?calls, fun call member =>
        (justNow call member).trans now, fun summary succeeds => ?failed⟩ }
  case reports =>
    rw [reportsOf_append, reportsOf_append, ← sequential.reports_eq submitted]
    simp
  case calls =>
    rw [calls]
    simp [entriesAtOnce]
  case failed => cases succeeds

theorem close (single : settings.jobs = some 1) {summary : Summary}
    (submitted : source.AllSubmitted) (taken : source.waiting = [])
    (queued : source.schedule.queued = [])
    (landed : source.schedule.inFlight = [])
    (isSummary : summary = summaryOf source.outcomes) :
    (History.mk
        (source.observe
          (.reported (summaryBlock settings.color summary))).log
        source.now (.ok summary)).KeepsTo
      (lintOneByOne settings.color tree engine inputs
        (inputs.flatMap (lintedFiles tree))) := by
  have settled := consistent.settled
  rw [taken, List.append_nil] at settled
  have files := consistent.inTurn single
  rw [Schedule.InTurn, submitted.whole_eq, landed, queued, List.map_nil,
    List.append_nil, List.append_nil, settled] at files
  have started := consistent.started_single single
  rw [landed, List.map_nil, List.append_nil, settled] at started
  have now := sequential.idle landed
  rw [settled] at now
  rw [consistent.outcomes_eq submitted] at isSummary
  rw [← files, lintOneByOne_of_continues settings.color tree inputs
    consistent.continues, ← isSummary]
  refine
    { ending := rfl
      time := now
      reports := ?reports
      calls := ⟨[], ?calls, by simp, fun _ _ => rfl⟩ }
  case reports =>
    rw [reportsOf_observe_reported, sequential.reports_eq submitted, now]
    simp
  case calls =>
    rw [callsOf_observe_reported, sequential.calls, started]
    simp [entriesAtOnce]

end Sequential

end RunState

end TemplateLint.Dispatch
