import TemplateLint.Proofs.Dispatch.VirtualTime

/-!
# What is left of a schedule

From any time on, what is left of a schedule in virtual time does not depend on
what has been done of it already: whether a task that can start has started,
whether a flight whose time has come has settled, and whether the time in which
nothing can happen has passed.
-/

namespace TemplateLint.Dispatch.Schedule

variable {Task : Type}

/-! ## Starting -/

theorem fill_of_start?_eq_some {endOf : Task → Nat}
    {source target : Schedule Task} (starts : source.start? endOf = some target) :
    source.fill endOf = target.fill endOf := by
  have started := (start?_eq_some_iff endOf source target).mp starts
  obtain ⟨task, queued, slots, queuedEq, _, rfl⟩ := started
  rw [fill, fill, queuedEq, List.length_cons, fillWith, starts]

theorem fill_of_start?_eq_none {endOf : Task → Nat} {source : Schedule Task}
    (blocked : source.start? endOf = none) : source.fill endOf = source := by
  rw [fill]
  cases source.queued with
  | nil => rfl
  | cons task queued => rw [List.length_cons, fillWith, blocked]

/-- A schedule that cannot start a task cannot do so at another time. -/
theorem start?_eq_none_of_eq_none {endOf : Task → Nat}
    {source : Schedule Task} (blocked : source.start? endOf = none)
    (other : Task → Nat) : source.start? other = none := by
  rw [start?_eq_none_iff] at blocked ⊢
  exact blocked

/-- A task that can start can do so as well after another one has settled. -/
theorem start?_settle {endOf : Task → Nat} {source target : Schedule Task}
    (starts : source.start? endOf = some target) (flight : Flight Task)
    (others : List (Flight Task)) :
    ∃ started : Flight Task,
      target.inFlight = source.inFlight ++ [started] ∧
      (source.settle flight others).start? endOf =
        some (target.settle flight (others ++ [started])) := by
  obtain ⟨task, queued, slots, queuedEq, taken, rfl⟩ :=
    (start?_eq_some_iff endOf source target).mp starts
  refine ⟨⟨task, endOf task⟩, rfl, ?_⟩
  have takenLater : source.slots.release.take? = some slots.release := by
    cases free : source.slots with
    | unlimited =>
        rw [free] at taken
        cases taken
        rfl
    | free count =>
        cases count with
        | zero =>
            rw [free] at taken
            cases taken
        | succ count =>
            rw [free] at taken
            cases taken
            rfl
  rw [start?_eq_some_iff]
  exact ⟨task, queued, slots.release, queuedEq, takenLater, rfl⟩

/-- Whether a flight settles before or after all that can be started has been
started, the same is started. -/
theorem exists_fill_settle (endOf : Task → Nat) (source : Schedule Task)
    (flight : Flight Task) (others : List (Flight Task)) :
    ∃ moved : List (Flight Task),
      (source.fill endOf).inFlight = source.inFlight ++ moved ∧
      (∀ started ∈ moved, started.ends = endOf started.task) ∧
      ((source.fill endOf).settle flight (others ++ moved)).fill endOf =
        (source.settle flight others).fill endOf := by
  induction queuedEq : source.queued.length generalizing source others with
  | zero =>
      have queued := List.eq_nil_of_length_eq_zero queuedEq
      refine ⟨[], ?_, by simp, ?_⟩ <;> simp [fill_of_queued_eq_nil _ queued]
  | succ bound inductionHypothesis =>
      cases starts : source.start? endOf with
      | none =>
          refine ⟨[], ?_, by simp, ?_⟩ <;>
            simp [fill_of_start?_eq_none starts]
      | some target =>
          obtain ⟨started, inFlight, startsLater⟩ :=
            start?_settle starts flight others
          obtain ⟨task, queued, slots, sourceQueued, _, isTarget⟩ :=
            (start?_eq_some_iff endOf source target).mp starts
          have fewer : target.queued.length = bound := by
            rw [sourceQueued, List.length_cons] at queuedEq
            rw [isTarget]
            exact Nat.succ.inj queuedEq
          have isStarted : started = ⟨task, endOf task⟩ := by
            rw [isTarget] at inFlight
            simpa using inFlight.symm
          obtain ⟨moved, flights, ends, later⟩ :=
            inductionHypothesis target (others ++ [started]) fewer
          refine ⟨started :: moved, ?_, ?_, ?_⟩
          · rw [fill_of_start?_eq_some starts, flights, inFlight,
              List.append_assoc]
            rfl
          · rw [List.forall_mem_cons]
            exact ⟨by rw [isStarted], ends⟩
          · rw [List.append_assoc, List.singleton_append] at later
            rw [fill_of_start?_eq_some starts,
              fill_of_start?_eq_some startsLater, later]

/-! ## The flight that ends first -/

theorem mem_of_earliest? {flights others : List (Flight Task)}
    {flight : Flight Task}
    (found : earliest? flights = some (flight, others)) :
    flight ∈ flights ∧ ∀ other ∈ others, other ∈ flights := by
  obtain ⟨before, after, rfl, rfl⟩ := exists_append_of_earliest? found
  refine ⟨by simp, fun other member => ?_⟩
  rw [List.mem_append] at member ⊢
  exact member.imp_right (List.mem_cons_of_mem flight)

theorem ends_le_of_earliest? {flights others : List (Flight Task)}
    {flight : Flight Task}
    (found : earliest? flights = some (flight, others)) :
    ∀ other ∈ flights, flight.ends ≤ other.ends := by
  induction flights generalizing flight others with
  | nil => simp
  | cons head tail inductionHypothesis =>
      rw [List.forall_mem_cons]
      rw [earliest?] at found
      split at found
      · next noneInTail =>
          cases found
          rw [(earliest?_eq_none_iff tail).mp noneInTail]
          simp
      · next best rest inTail =>
          have bestFirst := inductionHypothesis inTail
          split at found
          · next first =>
              cases found
              exact ⟨Nat.le_refl _, fun other member =>
                Nat.le_trans first (bestFirst other member)⟩
          · next notFirst =>
              cases found
              exact ⟨Nat.le_of_lt (Nat.not_le.mp notFirst), bestFirst⟩

theorem earliest?_cons_of_le {flight : Flight Task}
    {rest : List (Flight Task)}
    (first : ∀ other ∈ rest, flight.ends ≤ other.ends) :
    earliest? (flight :: rest) = some (flight, rest) := by
  rw [earliest?]
  split
  · next noneInRest => rw [(earliest?_eq_none_iff rest).mp noneInRest]
  · next best others inRest =>
      rw [if_pos (first best (mem_of_earliest? inRest).1)]

/-- Flights that are started later and end no earlier come after it. -/
theorem earliest?_append {flights others : List (Flight Task)}
    {flight : Flight Task}
    (found : earliest? flights = some (flight, others))
    {more : List (Flight Task)}
    (later : ∀ other ∈ more, flight.ends ≤ other.ends) :
    earliest? (flights ++ more) = some (flight, others ++ more) := by
  induction flights generalizing flight others with
  | nil => cases found
  | cons head tail inductionHypothesis =>
      have first := ends_le_of_earliest? found
      rw [earliest?] at found
      split at found
      · next noneInTail =>
          cases found
          rw [(earliest?_eq_none_iff tail).mp noneInTail]
          exact earliest?_cons_of_le later
      · next best rest inTail =>
          split at found
          · cases found
            rw [List.forall_mem_cons] at first
            exact earliest?_cons_of_le
              (List.forall_mem_append.mpr ⟨first.2, later⟩)
          · next notFirst =>
              cases found
              rw [List.cons_append, earliest?,
                inductionHypothesis inTail later]
              simp only [if_neg notFirst]
              rfl

/-! ## The rest of a schedule -/

/-- Let all tasks of a schedule settle. -/
def complete (delay : Task → Nat) (now : Nat) (schedule : Schedule Task) :
    Schedule Task :=
  runWith delay (schedule.queued.length + schedule.inFlight.length) now
    schedule

variable {delay : Task → Nat} {now : Nat}

theorem complete_initial (delay : Task → Nat) (slots : Slots)
    (tasks : List Task) :
    complete delay 0 (initial slots tasks) = course delay slots tasks := rfl

theorem length_fill (endOf : Task → Nat) (schedule : Schedule Task) :
    (schedule.fill endOf).queued.length +
        (schedule.fill endOf).inFlight.length =
      schedule.queued.length + schedule.inFlight.length := by
  obtain ⟨moved, fromQueue, toFlights⟩ :=
    exists_fillWith_moves endOf schedule.queued.length schedule
  have queued := congrArg List.length fromQueue
  have inFlight := congrArg List.length toFlights
  rw [List.length_append] at queued
  rw [List.length_append, List.length_map] at inFlight
  unfold fill
  omega

theorem complete_eq (delay : Task → Nat) (now : Nat)
    (schedule : Schedule Task) :
    complete delay now schedule =
      match earliest?
          (schedule.fill fun task => now + delay task).inFlight with
      | none => schedule.fill fun task => now + delay task
      | some (flight, others) =>
          complete delay flight.ends
            ((schedule.fill fun task => now + delay task).settle flight
              others) := by
  have lengths := length_fill (fun task => now + delay task) schedule
  cases total : schedule.queued.length + schedule.inFlight.length with
  | zero =>
      have queued : schedule.queued = [] :=
        List.eq_nil_of_length_eq_zero (by omega)
      have landed : schedule.inFlight = [] :=
        List.eq_nil_of_length_eq_zero (by omega)
      rw [complete, total, runWith, fill_of_queued_eq_nil _ queued, landed]
      rfl
  | succ count =>
      rw [complete, total, runWith]
      cases found : earliest?
          (schedule.fill fun task => now + delay task).inFlight with
      | none => rfl
      | some settled =>
          obtain ⟨flight, others⟩ := settled
          obtain ⟨before, after, inFlight, rfl⟩ :=
            exists_append_of_earliest? found
          have fewer :
              (schedule.fill fun task => now + delay task).queued.length +
                (before ++ after).length = count := by
            rw [inFlight, total] at lengths
            simp only [List.length_append, List.length_cons] at lengths ⊢
            omega
          exact congrArg (runWith delay · _ _) fewer.symm

theorem complete_of_sameFill {left right : Schedule Task}
    (same : left.fill (fun task => now + delay task) =
      right.fill (fun task => now + delay task)) :
    complete delay now left = complete delay now right := by
  rw [complete_eq, complete_eq, same]

/-- Starting a task changes nothing. -/
theorem complete_of_start? {source target : Schedule Task}
    (starts : source.start? (fun task => now + delay task) = some target) :
    complete delay now source = complete delay now target :=
  complete_of_sameFill (fill_of_start?_eq_some starts)

/-- Settling a flight whose time has come changes nothing. -/
theorem complete_settle {schedule : Schedule Task} {flight : Flight Task}
    {others : List (Flight Task)}
    (found : earliest? schedule.inFlight = some (flight, others))
    (isOver : flight.ends = now) :
    complete delay now (schedule.settle flight others) =
      complete delay now schedule := by
  obtain ⟨moved, inFlight, ends, sameFill⟩ := exists_fill_settle
    (fun task => now + delay task) schedule flight others
  have later : ∀ other ∈ moved, flight.ends ≤ other.ends := by
    intro other member
    rw [isOver, ends other member]
    exact Nat.le_add_right now _
  rw [complete_eq delay now schedule, inFlight,
    earliest?_append found later]
  simp only [isOver]
  exact (complete_of_sameFill sameFill).symm

/-- Time in which nothing can happen changes nothing. -/
theorem complete_of_blocked {schedule : Schedule Task} {endOf : Task → Nat}
    (blocked : schedule.start? endOf = none) (later : Nat) :
    complete delay later schedule = complete delay now schedule := by
  rw [complete_eq, complete_eq,
    fill_of_start?_eq_none (start?_eq_none_of_eq_none blocked _),
    fill_of_start?_eq_none (start?_eq_none_of_eq_none blocked _)]

theorem complete_of_settled {schedule : Schedule Task}
    (queued : schedule.queued = []) (landed : schedule.inFlight = []) :
    complete delay now schedule = schedule := by
  simp [complete, queued, landed, runWith]

/-! ## What has been done -/

theorem Reachable.settled_prefix {source target : Schedule Task}
    (reachable : Reachable source target) :
    source.settled <+: target.settled := by
  induction reachable with
  | refl => exact List.prefix_refl _
  | step _ steps inductionHypothesis =>
      refine inductionHypothesis.trans ?_
      cases steps with
      | start endOf starts =>
          obtain ⟨_, _, _, _, _, rfl⟩ := (start?_eq_some_iff _ _ _).mp starts
          exact List.prefix_refl _
      | settle flight before after inFlight => exact List.prefix_append _ _

theorem Reachable.started_prefix {source target : Schedule Task}
    (reachable : Reachable source target) :
    source.started <+: target.started := by
  induction reachable with
  | refl => exact List.prefix_refl _
  | step _ steps inductionHypothesis =>
      refine inductionHypothesis.trans ?_
      cases steps with
      | start endOf starts =>
          obtain ⟨_, _, _, _, _, rfl⟩ := (start?_eq_some_iff _ _ _).mp starts
          exact List.prefix_append _ _
      | settle flight before after inFlight => exact List.prefix_refl _

theorem complete_reachable (delay : Task → Nat) (now : Nat)
    (schedule : Schedule Task) :
    Reachable schedule (complete delay now schedule) :=
  runWith_reachable delay _ now schedule

end TemplateLint.Dispatch.Schedule
