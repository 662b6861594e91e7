import TemplateLint.Proofs.Dispatch.ScheduleSteps

/-!
# Schedules in virtual time

The schedule in virtual time is one of those that can be reached, and every
task settles in it.
-/

namespace TemplateLint.Dispatch.Schedule

variable {Task : Type}

/-! ## Starting all that can be started -/

namespace Reachable

theorem trans {source middle target : Schedule Task}
    (first : Reachable source middle) (second : Reachable middle target) :
    Reachable source target := by
  induction second with
  | refl => exact first
  | step _ steps inductionHypothesis =>
      exact inductionHypothesis.step steps

end Reachable

theorem fillWith_reachable (endOf : Task → Nat) (bound : Nat)
    (schedule : Schedule Task) :
    Reachable schedule (fillWith endOf bound schedule) := by
  induction bound generalizing schedule with
  | zero => exact Reachable.refl
  | succ bound inductionHypothesis =>
      rw [fillWith]
      split
      · next next starts =>
          have started : Reachable schedule next :=
            Reachable.refl.step (Step.start endOf starts)
          exact started.trans (inductionHypothesis next)
      · exact Reachable.refl

@[simp]
theorem fillWith_settled (endOf : Task → Nat) (bound : Nat)
    (schedule : Schedule Task) :
    (fillWith endOf bound schedule).settled = schedule.settled := by
  induction bound generalizing schedule with
  | zero => rfl
  | succ bound inductionHypothesis =>
      rw [fillWith]
      split
      · next next starts =>
          obtain ⟨_, _, _, _, _, rfl⟩ :=
            (start?_eq_some_iff endOf schedule next).mp starts
          exact inductionHypothesis _
      · rfl

theorem fillWith_start? (endOf : Task → Nat) (bound : Nat)
    (schedule : Schedule Task)
    (enough : schedule.queued.length ≤ bound) :
    (fillWith endOf bound schedule).start? endOf = none := by
  induction bound generalizing schedule with
  | zero =>
      have queued : schedule.queued = [] :=
        List.eq_nil_of_length_eq_zero (Nat.le_zero.mp enough)
      exact (start?_eq_none_iff endOf schedule).mpr (Or.inl queued)
  | succ bound inductionHypothesis =>
      rw [fillWith]
      split
      · next next starts =>
          obtain ⟨task, queued, slots, queuedEq, _, rfl⟩ :=
            (start?_eq_some_iff endOf schedule next).mp starts
          apply inductionHypothesis
          simp only [queuedEq, List.length_cons] at enough
          exact Nat.le_of_succ_le_succ enough
      · next starts => exact starts

theorem fill_reachable (endOf : Task → Nat) (schedule : Schedule Task) :
    Reachable schedule (schedule.fill endOf) :=
  fillWith_reachable endOf schedule.queued.length schedule

@[simp]
theorem fill_settled (endOf : Task → Nat) (schedule : Schedule Task) :
    (schedule.fill endOf).settled = schedule.settled :=
  fillWith_settled endOf schedule.queued.length schedule

/-- Afterwards nothing is queued or no slot is free. -/
theorem queued_eq_nil_or_fill_slots (endOf : Task → Nat)
    (schedule : Schedule Task) :
    (schedule.fill endOf).queued = [] ∨
      (schedule.fill endOf).slots = .free 0 :=
  (start?_eq_none_iff endOf _).mp
    (fillWith_start? endOf _ schedule (Nat.le_refl _))

/-- Tasks move from the queue to the flights, in order. -/
theorem exists_fillWith_moves (endOf : Task → Nat) (bound : Nat)
    (schedule : Schedule Task) :
    ∃ moved,
      schedule.queued = moved ++ (fillWith endOf bound schedule).queued ∧
      (fillWith endOf bound schedule).inFlight =
        schedule.inFlight ++ moved.map (fun task => ⟨task, endOf task⟩) := by
  induction bound generalizing schedule with
  | zero => exact ⟨[], by simp [fillWith]⟩
  | succ bound inductionHypothesis =>
      rw [fillWith]
      split
      · next next starts =>
          obtain ⟨task, queued, slots, queuedEq, _, rfl⟩ :=
            (start?_eq_some_iff endOf schedule next).mp starts
          obtain ⟨moved, fromQueue, toFlights⟩ := inductionHypothesis
            { schedule with
              slots := slots
              queued := queued
              started := schedule.started ++ [task]
              inFlight := schedule.inFlight ++ [⟨task, endOf task⟩] }
          refine ⟨task :: moved, ?_, ?_⟩
          · rw [queuedEq, List.cons_append, ← fromQueue]
          · rw [toFlights, List.map_cons, List.append_assoc]
            rfl
      · exact ⟨[], by simp⟩

@[simp]
theorem fill_of_queued_eq_nil (endOf : Task → Nat)
    {schedule : Schedule Task} (queued : schedule.queued = []) :
    schedule.fill endOf = schedule := by
  rw [fill, queued]
  rfl

/-! ## The flight that ends first -/

theorem earliest?_eq_none_iff (flights : List (Flight Task)) :
    earliest? flights = none ↔ flights = [] := by
  cases flights with
  | nil => simp [earliest?]
  | cons flight rest =>
      rw [earliest?]
      split
      · simp
      · split <;> simp

/-- It is taken out of its place; the other flights stay in order. -/
theorem exists_append_of_earliest? {flights others : List (Flight Task)}
    {flight : Flight Task}
    (found : earliest? flights = some (flight, others)) :
    ∃ before after,
      flights = before ++ flight :: after ∧
      others = before ++ after := by
  induction flights generalizing flight others with
  | nil => cases found
  | cons head tail inductionHypothesis =>
      rw [earliest?] at found
      split at found
      · next noneInTail =>
          have tailEmpty := (earliest?_eq_none_iff tail).mp noneInTail
          cases found
          exact ⟨[], [], by simp [tailEmpty], rfl⟩
      · next best rest inTail =>
          split at found
          · cases found
            exact ⟨[], tail, rfl, rfl⟩
          · cases found
            obtain ⟨before, after, rfl, rfl⟩ := inductionHypothesis inTail
            exact ⟨head :: before, after, rfl, rfl⟩

theorem settle_reachable_of_earliest? {schedule : Schedule Task}
    {flight : Flight Task} {others : List (Flight Task)}
    (found : earliest? schedule.inFlight = some (flight, others)) :
    Reachable schedule (schedule.settle flight others) := by
  obtain ⟨before, after, inFlight, rfl⟩ := exists_append_of_earliest? found
  exact Reachable.refl.step (Step.settle flight before after inFlight)

/-! ## Runs -/

variable (delay : Task → Nat)

theorem runWith_reachable (bound now : Nat) (schedule : Schedule Task) :
    Reachable schedule (runWith delay bound now schedule) := by
  induction bound generalizing now schedule with
  | zero => exact Reachable.refl
  | succ bound inductionHypothesis =>
      have filled :=
        fill_reachable (fun task => now + delay task) schedule
      rw [runWith]
      split
      · exact filled
      · next flight others found =>
          have settled := filled.trans (settle_reachable_of_earliest? found)
          exact settled.trans (inductionHypothesis _ _)

/-- The schedule in virtual time is one that can be reached. -/
theorem course_reachable (slots : Slots) (tasks : List Task) :
    Reachable (initial slots tasks) (course delay slots tasks) :=
  runWith_reachable delay tasks.length 0 (initial slots tasks)

theorem course_accounts (slots : Slots) (tasks : List Task) :
    Accounts slots tasks (course delay slots tasks) :=
  (accounts_initial slots tasks).reachable
    (course_reachable delay slots tasks)

/-- With a bound on what has not settled, a run comes to its end. -/
theorem runWith_unsettled {slots : Slots} {tasks : List Task}
    (positive : slots ≠ .free 0) (bound now : Nat)
    {schedule : Schedule Task} (accounts : Accounts slots tasks schedule)
    (enough : tasks.length ≤ bound + schedule.settled.length) :
    (runWith delay bound now schedule).queued = [] ∧
      (runWith delay bound now schedule).inFlight = [] := by
  induction bound generalizing now schedule with
  | zero =>
      have lengths := accounts.length_add_length_add_length
      rw [runWith]
      constructor <;> apply List.eq_nil_of_length_eq_zero <;> omega
  | succ bound inductionHypothesis =>
      have filled := accounts.reachable
        (fill_reachable (fun task => now + delay task) schedule)
      rw [runWith]
      split
      · next found =>
          have landed := (earliest?_eq_none_iff _).mp found
          have slotLeft := filled.slots_ne_free_zero positive landed
          exact
            ⟨(queued_eq_nil_or_fill_slots _ schedule).resolve_right
              slotLeft, landed⟩
      · next flight others found =>
          have settled :=
            filled.reachable (settle_reachable_of_earliest? found)
          refine inductionHypothesis flight.ends settled ?_
          simp only [settle_settled, fill_settled, List.length_append,
            List.length_singleton]
          omega

section Course

variable {slots : Slots} (positive : slots ≠ .free 0) (tasks : List Task)

include positive

/-- In the end nothing is queued or in flight. -/
theorem course_unsettled :
    (course delay slots tasks).queued = [] ∧
      (course delay slots tasks).inFlight = [] :=
  runWith_unsettled delay positive tasks.length 0
    (accounts_initial slots tasks) (by simp [initial])

/-- Every task settles once. -/
theorem course_settled_perm :
    (course delay slots tasks).settled.Perm tasks := by
  have perm := (course_accounts delay slots tasks).tasks_perm
  obtain ⟨queued, landed⟩ := course_unsettled delay positive tasks
  rw [queued, landed] at perm
  exact perm

/-- Tasks are started in the order in which they were submitted. -/
theorem course_started : (course delay slots tasks).started = tasks := by
  have joined := (course_accounts delay slots tasks).started_append_queued
  rwa [(course_unsettled delay positive tasks).1, List.append_nil] at joined

end Course

end TemplateLint.Dispatch.Schedule
