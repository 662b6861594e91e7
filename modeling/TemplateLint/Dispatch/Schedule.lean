/-!
# Schedules

Tasks are started in the order in which they were submitted, each as soon as a
slot is free, and settle when their time is over.  A schedule is what is still
queued, what is in flight and what has settled, in the order of settling; it
also holds the slots that are free and the tasks that were ever started.  A
task that settles gives its slot back, whatever becomes of its result.

The steps that any schedule can take are a relation; the schedule in virtual
time is one way through them.  Of tasks whose time is over at once the one
that was started first settles first.

Two things are assumed of the runtime that polls the tasks, and not derived:
tasks are first polled, and so begin to wait for a slot, in the order in which
they were submitted; and submitting them takes no time, so that in virtual
time all of them are there from the beginning.
-/

namespace TemplateLint.Dispatch

/-! ## Slots -/

/-- The slots that tasks take while they are in flight: as many as they like,
or the free ones of a number. -/
inductive Slots where
  | unlimited
  | free (count : Nat)
  deriving DecidableEq, Repr

/-- The greatest number of slots that can be made. -/
def mostSlots : Nat := UInt64.size / 8 - 1

namespace Slots

/-- Make slots, all of them free.  No more than the greatest number can be
made. -/
def make? (count : Nat) : Option Slots :=
  if count ≤ mostSlots then some (.free count) else none

def take? : Slots → Option Slots
  | .unlimited => some .unlimited
  | .free 0 => none
  | .free (count + 1) => some (.free count)

def release : Slots → Slots
  | .unlimited => .unlimited
  | .free count => .free (count + 1)

end Slots

/-- The slots for a number of jobs, if they can be made.  No number, or zero,
means no limit; a number beyond the greatest stands for the greatest. -/
def slotsFor? : Option UInt64 → Option Slots
  | none => some .unlimited
  | some jobs =>
      if jobs = 0 then some .unlimited
      else Slots.make? (min jobs.toNat mostSlots)

theorem slotsFor?_isSome (jobs : Option UInt64) :
    (slotsFor? jobs).isSome = true := by
  unfold slotsFor?
  split
  · rfl
  · split
    · rfl
    · rw [Slots.make?, if_pos (Nat.min_le_right _ _)]
      rfl

def slotsFor (jobs : Option UInt64) : Slots :=
  (slotsFor? jobs).get (slotsFor?_isSome jobs)

@[simp]
theorem slotsFor_none : slotsFor none = .unlimited := rfl

@[simp]
theorem slotsFor_zero : slotsFor (some 0) = .unlimited := rfl

theorem slotsFor_of_ne_zero {jobs : UInt64} (nonzero : jobs ≠ 0) :
    slotsFor (some jobs) = .free (min jobs.toNat mostSlots) := by
  have fits : min jobs.toNat mostSlots ≤ mostSlots := Nat.min_le_right _ _
  simp [slotsFor, slotsFor?, Slots.make?, nonzero, fits]

/-- There is always a slot to begin with. -/
theorem slotsFor_ne_free_zero (jobs : Option UInt64) :
    slotsFor jobs ≠ .free 0 := by
  cases jobs with
  | none => simp
  | some jobs =>
      by_cases zero : jobs = 0
      · simp [zero]
      · have positive : jobs.toNat ≠ 0 := fun equal =>
          zero (UInt64.toNat_inj.mp equal)
        rw [slotsFor_of_ne_zero zero]
        simp [mostSlots, UInt64.size, positive]

/-! ## Steps -/

/-- A task that has been started, and the time at which it ends. -/
structure Flight (Task : Type) where
  task : Task
  ends : Nat
  deriving DecidableEq, Repr

structure Schedule (Task : Type) where
  slots : Slots
  queued : List Task
  /-- The tasks that were ever started, in the order of starting. -/
  started : List Task
  inFlight : List (Flight Task)
  settled : List Task
  deriving DecidableEq, Repr

namespace Schedule

variable {Task : Type}

/-- All tasks are queued. -/
def initial (slots : Slots) (tasks : List Task) : Schedule Task where
  slots := slots
  queued := tasks
  started := []
  inFlight := []
  settled := []

/-- Start the first queued task, if a slot is free. -/
def start? (endOf : Task → Nat) (schedule : Schedule Task) :
    Option (Schedule Task) :=
  match schedule.queued, schedule.slots.take? with
  | task :: queued, some slots =>
      some
        { schedule with
          slots := slots
          queued := queued
          started := schedule.started ++ [task]
          inFlight := schedule.inFlight ++ [⟨task, endOf task⟩] }
  | _, _ => none

/-- Settle a task in flight; the other ones stay there. -/
def settle (schedule : Schedule Task) (flight : Flight Task)
    (others : List (Flight Task)) : Schedule Task :=
  { schedule with
    slots := schedule.slots.release
    inFlight := others
    settled := schedule.settled ++ [flight.task] }

/-- The steps of a schedule: the first queued task starts, to end at any time,
and any task in flight settles. -/
inductive Step : Schedule Task → Schedule Task → Prop
  | start {source target : Schedule Task} (endOf : Task → Nat) :
      source.start? endOf = some target → Step source target
  | settle {source : Schedule Task} (flight : Flight Task)
      (before after : List (Flight Task)) :
      source.inFlight = before ++ flight :: after →
      Step source (source.settle flight (before ++ after))

inductive Reachable (source : Schedule Task) : Schedule Task → Prop
  | refl : Reachable source source
  | step {middle target : Schedule Task} :
      Reachable source middle → Step middle target → Reachable source target

/-! ## Virtual time -/

/-- Start tasks as long as there is a slot, at most so many. -/
def fillWith (endOf : Task → Nat) : Nat → Schedule Task → Schedule Task
  | 0, schedule => schedule
  | bound + 1, schedule =>
      match schedule.start? endOf with
      | some next => fillWith endOf bound next
      | none => schedule

/-- Start tasks as long as there is a slot. -/
def fill (endOf : Task → Nat) (schedule : Schedule Task) : Schedule Task :=
  fillWith endOf schedule.queued.length schedule

/-- The flight that ends first, of several the one started first, and the
other ones. -/
def earliest? : List (Flight Task) →
    Option (Flight Task × List (Flight Task))
  | [] => none
  | flight :: rest =>
      match earliest? rest with
      | none => some (flight, [])
      | some (best, others) =>
          if flight.ends ≤ best.ends then some (flight, rest)
          else some (best, flight :: others)

/-- Let tasks start and settle, at most so many. -/
def runWith (delay : Task → Nat) :
    Nat → Nat → Schedule Task → Schedule Task
  | 0, _, schedule => schedule
  | bound + 1, now, schedule =>
      let filled := schedule.fill (fun task => now + delay task)
      match earliest? filled.inFlight with
      | none => filled
      | some (flight, others) =>
          runWith delay bound flight.ends (filled.settle flight others)

/-- The schedule of some tasks when all of them have settled. -/
def course (delay : Task → Nat) (slots : Slots) (tasks : List Task) :
    Schedule Task :=
  runWith delay tasks.length 0 (initial slots tasks)

@[simp]
theorem course_nil (delay : Task → Nat) (slots : Slots) :
    course delay slots [] = initial slots [] := rfl

end Schedule

end TemplateLint.Dispatch
