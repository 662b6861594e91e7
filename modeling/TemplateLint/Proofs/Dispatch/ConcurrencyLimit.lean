import TemplateLint.Proofs.Dispatch.VirtualTime

/-!
# The limit on what is in flight

With a number of jobs no more than so many tasks are in flight at any time,
whatever the order in which they settle, and the limit costs nothing else: no
task is lost or overtaken, a task waits only for a slot, and a schedule never
gets stuck.
-/

namespace TemplateLint.Dispatch.Schedule

variable {Task : Type}

/-- What a number of jobs promises of a schedule of some tasks. -/
structure KeepsLimit (jobs : Option UInt64) (tasks : List Task)
    (schedule : Schedule Task) : Prop where
  /-- No more tasks are in flight than there are jobs. -/
  inFlight_le : ∀ count, jobs = some count → count ≠ 0 →
    schedule.inFlight.length ≤ count.toNat
  /-- A task waits only while all jobs are in flight.  No more jobs than the
  greatest number of slots are ever in flight, which matters only if there are
  even more tasks than that. -/
  waits_for_slot : ∀ count, jobs = some count → count ≠ 0 →
    schedule.queued ≠ [] →
    schedule.CanStart ∨ schedule.inFlight.length = count.toNat ∨
      (schedule.inFlight.length = mostSlots ∧
        mostSlots < count.toNat ∧ mostSlots < tasks.length)
  /-- Without a limit no task ever waits. -/
  never_waits : jobs = none ∨ jobs = some 0 →
    schedule.queued ≠ [] → schedule.CanStart
  /-- What was started is a first part of the tasks, in their order. -/
  started_append_queued : schedule.started ++ schedule.queued = tasks
  /-- What was started is in flight or has settled. -/
  started_perm :
    schedule.started.Perm
      (schedule.inFlight.map Flight.task ++ schedule.settled)
  /-- Every task is queued, in flight or settled, as often as it was
  submitted. -/
  tasks_perm :
    (schedule.queued ++
      (schedule.inFlight.map Flight.task ++ schedule.settled)).Perm tasks
  /-- As long as something has not settled, a step is possible. -/
  exists_step : schedule.queued ≠ [] ∨ schedule.inFlight ≠ [] →
    ∃ next, Step schedule next

theorem Accounts.inFlight_length_le_jobs {count : UInt64}
    (nonzero : count ≠ 0) {tasks : List Task} {schedule : Schedule Task}
    (accounts : Accounts (slotsFor (some count)) tasks schedule) :
    schedule.inFlight.length ≤ count.toNat := by
  rw [slotsFor_of_ne_zero nonzero] at accounts
  exact Nat.le_trans accounts.inFlight_length_le (Nat.min_le_left _ _)

theorem Accounts.waits_for_slot {count : UInt64} (nonzero : count ≠ 0)
    {tasks : List Task} {schedule : Schedule Task}
    (accounts : Accounts (slotsFor (some count)) tasks schedule)
    (waiting : schedule.queued ≠ []) :
    schedule.CanStart ∨ schedule.inFlight.length = count.toNat ∨
      (schedule.inFlight.length = mostSlots ∧
        mostSlots < count.toNat ∧ mostSlots < tasks.length) := by
  rw [slotsFor_of_ne_zero nonzero] at accounts
  by_cases taken : schedule.slots = .free 0
  · right
    have full := accounts.slots_eq_free_zero_iff.mp taken
    have lengths := accounts.length_add_length_add_length
    have queued := List.length_pos_iff.mpr waiting
    -- The cap is the smaller one of the jobs and the greatest number of slots.
    rcases Nat.lt_or_ge mostSlots count.toNat with above | below
    · rw [Nat.min_eq_right (Nat.le_of_lt above)] at full
      exact Or.inr ⟨full, above, by omega⟩
    · rw [Nat.min_eq_left below] at full
      exact Or.inl full
  · exact Or.inl ((canStart_iff schedule).mpr ⟨waiting, taken⟩)

theorem Accounts.canStart_of_unlimited {tasks : List Task}
    {schedule : Schedule Task}
    (accounts : Accounts .unlimited tasks schedule)
    (waiting : schedule.queued ≠ []) : schedule.CanStart := by
  refine (canStart_iff schedule).mpr ⟨waiting, ?_⟩
  rw [accounts.slots_eq_unlimited]
  exact Slots.noConfusion

/-- The slots for any number of jobs can be made, the schedule in virtual time
is among those that can be reached and settles every task, and all schedules
that can be reached keep the limit. -/
theorem reachable_keepsLimit (jobs : Option UInt64) (tasks : List Task) :
    (slotsFor? jobs).isSome = true ∧
    (∀ delay : Task → Nat,
      let schedule := course delay (slotsFor jobs) tasks
      Reachable (initial (slotsFor jobs) tasks) schedule ∧
        schedule.queued = [] ∧ schedule.inFlight = [] ∧
        schedule.settled.Perm tasks) ∧
    ∀ schedule, Reachable (initial (slotsFor jobs) tasks) schedule →
      KeepsLimit jobs tasks schedule := by
  have positive := slotsFor_ne_free_zero jobs
  refine ⟨slotsFor?_isSome jobs, fun delay => ?_, ?_⟩
  · obtain ⟨queued, landed⟩ := course_unsettled delay positive tasks
    exact ⟨course_reachable delay _ tasks, queued, landed,
      course_settled_perm delay positive tasks⟩
  intro schedule reachable
  have accounts :=
    (accounts_initial (slotsFor jobs) tasks).reachable reachable
  constructor
  case inFlight_le =>
    rintro count rfl nonzero
    exact accounts.inFlight_length_le_jobs nonzero
  case waits_for_slot =>
    rintro count rfl nonzero waiting
    exact accounts.waits_for_slot nonzero waiting
  case never_waits =>
    rintro (rfl | rfl) waiting
    · exact accounts.canStart_of_unlimited waiting
    · exact accounts.canStart_of_unlimited waiting
  case started_append_queued => exact accounts.started_append_queued
  case started_perm => exact accounts.started_perm
  case tasks_perm => exact accounts.tasks_perm
  case exists_step =>
    exact accounts.exists_step (slotsFor_ne_free_zero jobs)

/-- Two jobs and three tasks: two tasks are started, and the third one has to
wait until one of them settles. -/
theorem reachable_keepsLimit_two_jobs :
    let begun := (initial (slotsFor (some 2)) [10, 20, 30]).fill id
    begun.inFlight = [⟨10, 10⟩, ⟨20, 20⟩] ∧ begun.queued = [30] ∧
      KeepsLimit (some 2) [10, 20, 30] begun :=
  ⟨rfl, rfl,
    (reachable_keepsLimit (some 2) [10, 20, 30]).2.2 _
      (fill_reachable id _)⟩

end TemplateLint.Dispatch.Schedule
