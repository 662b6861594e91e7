import Mathlib.Data.List.Perm.Basic
import TemplateLint.Dispatch.Schedule

/-!
# What the steps of a schedule keep

A step neither loses nor doubles a task, and it neither loses nor makes a
slot: the free slots together with one for each task in flight are the slots
of the beginning.  Both are kept by single steps, and so by every schedule
that can be reached.
-/

namespace TemplateLint.Dispatch

namespace Slots

/-- The slots after so many have been given back. -/
def withReturned (returned : Nat) : Slots → Slots
  | .unlimited => .unlimited
  | .free count => .free (count + returned)

@[simp]
theorem withReturned_zero (slots : Slots) :
    slots.withReturned 0 = slots := by
  cases slots <;> rfl

theorem withReturned_release (slots : Slots) (returned : Nat) :
    slots.release.withReturned returned =
      slots.withReturned (returned + 1) := by
  cases slots with
  | unlimited => rfl
  | free count =>
      simp [release, withReturned, Nat.add_comm, Nat.add_left_comm]

theorem take?_eq_none_iff (slots : Slots) :
    slots.take? = none ↔ slots = .free 0 := by
  cases slots with
  | unlimited => simp [take?]
  | free count => cases count <;> simp [take?]

theorem withReturned_of_take? {slots rest : Slots}
    (taken : slots.take? = some rest) (returned : Nat) :
    rest.withReturned (returned + 1) = slots.withReturned returned := by
  cases slots with
  | unlimited =>
      cases taken
      rfl
  | free count =>
      cases count with
      | zero => cases taken
      | succ count =>
          cases taken
          simp [withReturned, Nat.add_comm, Nat.add_left_comm]

end Slots

namespace Schedule

variable {Task : Type}

/-! ## Single steps -/

theorem start?_eq_some_iff (endOf : Task → Nat)
    (source target : Schedule Task) :
    source.start? endOf = some target ↔
      ∃ task queued slots,
        source.queued = task :: queued ∧
        source.slots.take? = some slots ∧
        target =
          { source with
            slots := slots
            queued := queued
            started := source.started ++ [task]
            inFlight := source.inFlight ++ [⟨task, endOf task⟩] } := by
  constructor
  · intro starts
    unfold start? at starts
    split at starts
    · next task queued slots queuedEq taken =>
        exact
          ⟨task, queued, slots, queuedEq, taken,
            (Option.some.inj starts).symm⟩
    · cases starts
  · rintro ⟨task, queued, slots, queuedEq, taken, rfl⟩
    simp [start?, queuedEq, taken]

theorem start?_eq_none_iff (endOf : Task → Nat)
    (schedule : Schedule Task) :
    schedule.start? endOf = none ↔
      schedule.queued = [] ∨ schedule.slots = .free 0 := by
  rw [← Slots.take?_eq_none_iff]
  cases queuedEq : schedule.queued with
  | nil => simp [start?, queuedEq]
  | cons task queued =>
      cases taken : schedule.slots.take? with
      | none => simp [start?, taken]
      | some slots => simp [start?, queuedEq, taken]

@[simp]
theorem settle_settled (schedule : Schedule Task) (flight : Flight Task)
    (others : List (Flight Task)) :
    (schedule.settle flight others).settled =
      schedule.settled ++ [flight.task] := rfl

/-- A start step is possible, whenever the started task will end. -/
def CanStart (schedule : Schedule Task) : Prop :=
  ∀ endOf : Task → Nat, ∃ next, schedule.start? endOf = some next

theorem canStart_iff (schedule : Schedule Task) :
    schedule.CanStart ↔
      schedule.queued ≠ [] ∧ schedule.slots ≠ .free 0 := by
  have blocked := fun endOf : Task → Nat =>
    start?_eq_none_iff endOf schedule
  constructor
  · intro canStart
    obtain ⟨next, starts⟩ := canStart (fun _ => 0)
    have notBlocked :=
      mt (blocked (fun _ => 0)).mpr (by simp [starts])
    exact not_or.mp notBlocked
  · intro ready endOf
    have notNone := mt (blocked endOf).mp (not_or.mpr ready)
    exact Option.ne_none_iff_exists'.mp notNone

/-! ## Invariants -/

/-- Every slot and every task is accounted for: `slots` and `tasks` are those
of the beginning. -/
structure Accounts (slots : Slots) (tasks : List Task)
    (schedule : Schedule Task) : Prop where
  slots_returned :
    schedule.slots.withReturned schedule.inFlight.length = slots
  started_append_queued : schedule.started ++ schedule.queued = tasks
  started_perm :
    schedule.started.Perm
      (schedule.inFlight.map Flight.task ++ schedule.settled)

theorem accounts_initial (slots : Slots) (tasks : List Task) :
    Accounts slots tasks (initial slots tasks) where
  slots_returned := by simp [initial]
  started_append_queued := by simp [initial]
  started_perm := by simp [initial]

namespace Accounts

variable {slots : Slots} {tasks : List Task}
  {source target : Schedule Task}

theorem start (accounts : Accounts slots tasks source)
    {endOf : Task → Nat} (starts : source.start? endOf = some target) :
    Accounts slots tasks target := by
  obtain ⟨task, queued, left, queuedEq, taken, rfl⟩ :=
    (start?_eq_some_iff endOf source target).mp starts
  constructor
  · simpa [Slots.withReturned_of_take? taken] using
      accounts.slots_returned
  · simpa [queuedEq] using accounts.started_append_queued
  · have appended := accounts.started_perm.append_right [task]
    refine appended.trans ?_
    simp only [List.map_append, List.map_cons, List.map_nil,
      List.append_assoc]
    exact List.perm_append_comm.append_left _

theorem settle (accounts : Accounts slots tasks source)
    {flight : Flight Task} {before after : List (Flight Task)}
    (inFlight : source.inFlight = before ++ flight :: after) :
    Accounts slots tasks (source.settle flight (before ++ after)) := by
  constructor
  · have returned := accounts.slots_returned
    rw [inFlight] at returned
    simpa [Schedule.settle, Slots.withReturned_release,
      Nat.add_assoc] using returned
  · exact accounts.started_append_queued
  · have moved :
        (source.inFlight.map Flight.task ++ source.settled).Perm
          ((before ++ after).map Flight.task ++
            (source.settled ++ [flight.task])) := by
      have toFront :
          source.inFlight.Perm (flight :: (before ++ after)) :=
        inFlight ▸ List.perm_middle
      have taskToFront := (toFront.map Flight.task).append_right
        source.settled
      refine taskToFront.trans ?_
      rw [← List.append_assoc]
      exact (List.perm_append_singleton flight.task _).symm
    exact accounts.started_perm.trans moved

theorem step (accounts : Accounts slots tasks source)
    (steps : Step source target) : Accounts slots tasks target := by
  cases steps with
  | start endOf starts => exact accounts.start starts
  | settle flight before after inFlight => exact accounts.settle inFlight

theorem reachable (accounts : Accounts slots tasks source)
    (reachable : Reachable source target) :
    Accounts slots tasks target := by
  induction reachable with
  | refl => exact accounts
  | step _ steps inductionHypothesis =>
      exact inductionHypothesis.step steps

/-! ## Consequences -/

/-- No task is lost and none is doubled. -/
theorem tasks_perm (accounts : Accounts slots tasks source) :
    (source.queued ++
      (source.inFlight.map Flight.task ++ source.settled)).Perm tasks := by
  have joined :=
    (accounts.started_perm.symm.append_left source.queued).trans
      List.perm_append_comm
  exact accounts.started_append_queued ▸ joined

theorem length_add_length_add_length
    (accounts : Accounts slots tasks source) :
    source.queued.length + source.inFlight.length +
      source.settled.length = tasks.length := by
  have lengths := accounts.tasks_perm.length_eq
  simp only [List.length_append, List.length_map] at lengths
  omega

theorem exists_slots_eq_free {count : Nat}
    (accounts : Accounts (.free count) tasks source) :
    ∃ left, source.slots = .free left ∧
      left + source.inFlight.length = count := by
  have returned := accounts.slots_returned
  cases free : source.slots with
  | unlimited => simp [free, Slots.withReturned] at returned
  | free left =>
      rw [free] at returned
      exact ⟨left, rfl, Slots.free.inj returned⟩

/-- No more tasks are in flight than there are slots. -/
theorem inFlight_length_le {count : Nat}
    (accounts : Accounts (.free count) tasks source) :
    source.inFlight.length ≤ count := by
  obtain ⟨left, _, total⟩ := accounts.exists_slots_eq_free
  omega

/-- All slots are taken exactly if so many tasks are in flight. -/
theorem slots_eq_free_zero_iff {count : Nat}
    (accounts : Accounts (.free count) tasks source) :
    source.slots = .free 0 ↔ source.inFlight.length = count := by
  obtain ⟨left, free, total⟩ := accounts.exists_slots_eq_free
  rw [free, Slots.free.injEq]
  omega

theorem slots_eq_unlimited
    (accounts : Accounts .unlimited tasks source) :
    source.slots = .unlimited := by
  have returned := accounts.slots_returned
  cases free : source.slots with
  | unlimited => rfl
  | free left => simp [free, Slots.withReturned] at returned

/-- As long as there are slots at all, one of them is free when nothing is in
flight. -/
theorem slots_ne_free_zero (accounts : Accounts slots tasks source)
    (positive : slots ≠ .free 0) (landed : source.inFlight = []) :
    source.slots ≠ .free 0 := by
  have returned := accounts.slots_returned
  rw [landed] at returned
  simp only [List.length_nil, Slots.withReturned_zero] at returned
  exact returned ▸ positive

/-- A step is possible as long as something has not settled. -/
theorem exists_step (accounts : Accounts slots tasks source)
    (positive : slots ≠ .free 0)
    (unsettled : source.queued ≠ [] ∨ source.inFlight ≠ []) :
    ∃ target, Step source target := by
  cases inFlight : source.inFlight with
  | cons flight others =>
      exact ⟨_, Step.settle flight [] others inFlight⟩
  | nil =>
      have queued : source.queued ≠ [] :=
        unsettled.resolve_right (not_not.mpr inFlight)
      have canStart : source.CanStart :=
        (canStart_iff source).mpr
          ⟨queued, accounts.slots_ne_free_zero positive inFlight⟩
      obtain ⟨target, starts⟩ := canStart (fun _ => 0)
      exact ⟨target, Step.start _ starts⟩

end Accounts

end Schedule

end TemplateLint.Dispatch
