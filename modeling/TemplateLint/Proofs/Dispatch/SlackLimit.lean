import TemplateLint.Proofs.Dispatch.EnoughSlots
import TemplateLint.Proofs.Dispatch.OneByOne
import TemplateLint.Proofs.Dispatch.Progress

/-!
# Limits that do not bind

It makes no difference to a run whether the number of jobs is not limited at
all or is no less than the number of files: it comes out in the same ways, and
the files are reported in the order of their delays.
-/

namespace TemplateLint.Dispatch

open Report

/-! ## Slots to spare -/

namespace Slots.Suffice

theorem exists_take? {slots : Slots} {count : Nat}
    (suffice : slots.Suffice (count + 1)) :
    ∃ left, slots.take? = some left ∧ left.Suffice count := by
  cases slots with
  | unlimited => exact ⟨.unlimited, rfl, trivial⟩
  | free number =>
      cases number with
      | zero => exact absurd suffice (Nat.not_succ_le_zero count)
      | succ left => exact ⟨.free left, rfl, Nat.le_of_succ_le_succ suffice⟩

theorem release {slots : Slots} {count : Nat}
    (suffice : slots.Suffice count) : slots.release.Suffice count := by
  cases slots with
  | unlimited => trivial
  | free number => exact Nat.le_succ_of_le suffice

end Slots.Suffice

namespace RunState

variable {settings others : Settings} {tree : FileTree} {engine : Engine}
  {left right : RunState}

/-! ## Executions with slots to spare -/

/-- Give an execution other slots. -/
def withSlots (state : RunState) (slots : Slots) : RunState :=
  { state with schedule := { state.schedule with slots := slots } }

/-- So many files have not been started. -/
def unstarted (tree : FileTree) (state : RunState) : Nat :=
  (state.whole tree).queued.length

theorem unstarted_of_queued {path : Path} {queued : List Path}
    (next : left.schedule.queued = path :: queued) (slots : Slots)
    (started : List Path) (inFlight : List (Flight Path)) :
    left.unstarted tree =
      { left with
        schedule :=
          { left.schedule with
            slots := slots
            queued := queued
            started := started
            inFlight := inFlight } }.unstarted tree + 1 := by
  rw [unstarted, whole, next]
  rfl

/-- Executions that are the same apart from their slots, of which both have
enough for all files that have not been started. -/
def SameButSlots (tree : FileTree) (left right : RunState) : Prop :=
  ∃ slots, right = left.withSlots slots ∧
    left.schedule.slots.Suffice (left.unstarted tree) ∧
    slots.Suffice (left.unstarted tree)

/-- With enough slots only an empty queue keeps tasks from starting. -/
theorem queued_eq_nil_of_blocked
    (enough : left.schedule.slots.Suffice (left.unstarted tree))
    {endOf : Path → Nat} (blocked : left.schedule.start? endOf = none) :
    left.schedule.queued = [] := by
  cases queuedEq : left.schedule.queued with
  | nil => rfl
  | cons path queued =>
      rw [unstarted_of_queued queuedEq .unlimited [] []] at enough
      obtain ⟨slots, taken, _⟩ := enough.exists_take?
      simp [Schedule.start?, queuedEq, taken] at blocked

/-- Whatever one side does, the other can do as well. -/
theorem SameButSlots.exists_step (same : SameButSlots tree left right)
    (sameColor : others.color = settings.color) {next : RunState}
    (steps : Step settings tree engine left next) :
    ∃ target, Step others tree engine right target ∧
      SameButSlots tree next target := by
  obtain ⟨slots, rfl, leftEnough, rightEnough⟩ := same
  cases steps with
  | resolve done inputs =>
      refine ⟨_, .resolve done inputs, slots, rfl, ?_⟩
      rw [unstarted, whole_of_inputs tree done inputs]
      exact ⟨leftEnough, rightEnough⟩
  | report items =>
      refine ⟨_, .report items, slots, by rw [sameColor]; rfl, ?_⟩
      rw [unstarted, whole_of_settled tree items]
      exact ⟨leftEnough, rightEnough⟩
  | submit items =>
      refine ⟨_, .submit items, slots, rfl, ?_⟩
      rw [unstarted, whole_of_submitted tree items]
      exact ⟨leftEnough, rightEnough⟩
  | start queued starts =>
      obtain ⟨path, rest, leftSlots, queuedEq, leftTaken, rfl⟩ :=
        (Schedule.start?_eq_some_iff _ _ _).mp starts
      rw [unstarted_of_queued queuedEq leftSlots _ _]
        at leftEnough rightEnough
      obtain ⟨_, leftTaken', leftLeft⟩ := leftEnough.exists_take?
      obtain ⟨rightSlots, rightTaken, rightLeft⟩ := rightEnough.exists_take?
      cases leftTaken'.symm.trans leftTaken
      refine ⟨_, .start queued ((Schedule.start?_eq_some_iff _ _ _).mpr
        ⟨path, rest, rightSlots, queuedEq, rightTaken, rfl⟩),
        rightSlots, rfl, leftLeft, rightLeft⟩
  | finish first isOver =>
      exact ⟨_, .finish first isOver, slots.release, rfl,
        leftEnough.release, rightEnough.release⟩
  | take submitted waiting settles =>
      exact ⟨_, .take ⟨submitted.inputs, submitted.items⟩ waiting settles,
        slots, by rw [sameColor]; rfl, leftEnough, rightEnough⟩
  | wait submitted taken blocked first later =>
      have queued := queued_eq_nil_of_blocked leftEnough blocked
      exact ⟨_, .wait ⟨submitted.inputs, submitted.items⟩ taken
        ((Schedule.start?_eq_none_iff _ _).mpr (Or.inl queued)) first later,
        slots, rfl, leftEnough, rightEnough⟩

theorem SameButSlots.exists_reaches (same : SameButSlots tree left right)
    (sameColor : others.color = settings.color) {last : RunState}
    (reaches : Reaches settings tree engine left last) :
    ∃ target, Reaches others tree engine right target ∧
      SameButSlots tree last target := by
  induction reaches with
  | refl => exact ⟨right, .refl, same⟩
  | step _ steps inductionHypothesis =>
      obtain ⟨middle, reached, sameMiddle⟩ := inductionHypothesis
      obtain ⟨target, later, sameTarget⟩ :=
        sameMiddle.exists_step sameColor steps
      exact ⟨target, reached.step later, sameTarget⟩

theorem SameButSlots.ends (same : SameButSlots tree left right)
    (sameColor : others.color = settings.color) {history : History}
    (ends : Ends settings engine left history) :
    Ends others engine right history := by
  obtain ⟨slots, rfl, _, _⟩ := same
  cases ends with
  | fail submitted waiting fails =>
      exact .fail ⟨submitted.inputs, submitted.items⟩ waiting fails
  | close submitted taken queued landed isSummary =>
      rw [← sameColor]
      exact .close ⟨submitted.inputs, submitted.items⟩ taken queued landed
        isSummary

end RunState

section Limits

variable {settings others : Settings} {tree : FileTree} {engine : Engine}
  {inputs : List String}

/-- A run can end in the same ways with any limit that leaves a slot for every
file. -/
theorem CanEndWith.of_suffice {history : History}
    (ends : CanEndWith settings tree engine inputs history)
    (sameColor : others.color = settings.color)
    (enough : (slotsFor settings.jobs).Suffice
      (inputs.flatMap (lintedFiles tree)).length)
    (othersEnough : (slotsFor others.jobs).Suffice
      (inputs.flatMap (lintedFiles tree)).length) :
    CanEndWith others tree engine inputs history := by
  obtain ⟨last, reaches, ends⟩ := ends
  have unstarted : (RunState.initial settings inputs).unstarted tree =
      (inputs.flatMap (lintedFiles tree)).length := by
    rw [← submissions_itemsOf]
    rfl
  have same : RunState.SameButSlots tree (.initial settings inputs)
      (.initial others inputs) :=
    ⟨slotsFor others.jobs, rfl, unstarted ▸ enough,
      unstarted ▸ othersEnough⟩
  obtain ⟨target, reached, sameLast⟩ := same.exists_reaches sameColor reaches
  exact ⟨target, reached, sameLast.ends sameColor ends⟩

/-- A run reports and ends as if its files were linted one by one, in the order
in which they settle. -/
theorem run_reports_inOrder (settings : Settings) (tree : FileTree)
    (engine : Engine) (inputs : List String) :
    let files := inputs.flatMap (lintedFiles tree)
    let inOrder := lintOneByOne settings.color tree engine inputs
      (settlingOrder settings engine files)
    (run settings tree engine inputs).blocks = inOrder.result.blocks ∧
      (run settings tree engine inputs).ending = inOrder.ending := by
  intro files inOrder
  by_cases someEnds : ∃ path ∈ files, (engine path).reply.endsRun = true
  · obtain ⟨before, path, after, failure, order, continues, fails⟩ :=
      exists_first_failure settings tree engine inputs someEnds
    obtain ⟨blocks, ending⟩ := run_of_endsRun settings tree engine inputs
      order continues fails
    have linted := lintOneByOne_of_error settings.color tree inputs
      continues fails after
    rw [← order] at linted
    constructor
    · rw [blocks, ← blocks_entries]
      simp only [inOrder, files, linted, History.result]
      simp
    · exact ending.trans (congrArg History.ending linted).symm
  · have continues : ∀ path ∈ files, (engine path).reply.endsRun = false :=
      fun path member => Bool.eq_false_iff.mpr fun ends =>
        someEnds ⟨path, member, ends⟩
    have linted := lintOneByOne_of_continues settings.color tree inputs
      fun path member => continues path
        ((settlingOrder_perm settings engine files).mem_iff.mp member)
    rw [run_of_continues settings tree engine inputs rfl continues]
    constructor
    · simp only [← blocks_entries, inOrder, linted, History.result]
      simp [files]
    · exact (congrArg History.ending linted).symm

/-- So many things can be kept in memory at once: each of them takes eight
bytes or more, and an address is a word of 64 bits.  With more files than that
even the greatest number of jobs would bind, as it stands for `mostSlots`. -/
def FitsInMemory (count : Nat) : Prop := 8 * count < UInt64.size

theorem suffice_slotsFor {jobs : UInt64} {count : Nat}
    (enough : count ≤ jobs.toNat) (fits : FitsInMemory count) :
    (slotsFor (some jobs)).Suffice count := by
  by_cases zero : jobs = 0
  · rw [zero]
    exact trivial
  · rw [slotsFor_of_ne_zero zero]
    unfold FitsInMemory UInt64.size at fits
    refine Nat.le_min.mpr ⟨enough, ?_⟩
    unfold mostSlots UInt64.size
    omega

/-- Without a limit, or with one that is no less than the number of files, a
run comes out in the same ways.  It reports and ends as if the files were linted
one by one in the order of their delays, those of the same delay in the order of
the inputs, and unless it fails the linter is called for all of them. -/
theorem run_of_slack_limit (color : Bool) (tree : FileTree)
    (engine : Engine) (inputs : List String) :
    let files := inputs.flatMap (lintedFiles tree)
    let unlimited : Settings := { color := color }
    let inOrder := lintOneByOne color tree engine inputs
      (files.mergeSort fun left right =>
        (engine left).delay ≤ (engine right).delay)
    (∀ jobs : UInt64,
      jobs = 0 ∨ (files.length ≤ jobs.toNat ∧ FitsInMemory files.length) →
      let limited : Settings := { color := color, jobs := some jobs }
      (run limited tree engine inputs).SameAs
          (run unlimited tree engine inputs) ∧
      ∀ history,
        CanEndWith limited tree engine inputs history ↔
          CanEndWith unlimited tree engine inputs history) ∧
    (∃ history, CanEndWith unlimited tree engine inputs history) ∧
    (∀ history, CanEndWith unlimited tree engine inputs history →
      history.result.SameAs (run unlimited tree engine inputs)) ∧
    (run unlimited tree engine inputs).blocks = inOrder.result.blocks ∧
    (run unlimited tree engine inputs).ending = inOrder.ending ∧
    ∀ summary,
      (run unlimited tree engine inputs).ending = .ok summary →
        (run unlimited tree engine inputs).calls = files := by
  intro files unlimited inOrder
  have order : settlingOrder unlimited engine
      (inputs.flatMap (lintedFiles tree)) =
        sortBy (fun path => (engine path).delay)
          (inputs.flatMap (lintedFiles tree)) :=
    Schedule.course_settled_of_suffice _ trivial
  obtain ⟨blocks, ending⟩ := run_reports_inOrder unlimited tree engine inputs
  rw [order] at blocks ending
  refine ⟨?_, exists_canEndWith unlimited tree engine inputs,
    fun _ ends => ends.sameAs_run, blocks, ending,
    fun _ _ => run_calls unlimited tree engine inputs⟩
  intro jobs slack limited
  have enough : (slotsFor limited.jobs).Suffice files.length := by
    rcases slack with rfl | ⟨enough, fits⟩
    · exact trivial
    · exact suffice_slotsFor enough fits
  have sameEnds : ∀ history,
      CanEndWith limited tree engine inputs history ↔
        CanEndWith unlimited tree engine inputs history := fun history =>
    ⟨fun ends => ends.of_suffice rfl enough trivial,
      fun ends => ends.of_suffice rfl trivial enough⟩
  obtain ⟨history, ends⟩ := exists_canEndWith limited tree engine inputs
  exact ⟨ends.sameAs_run.symm.trans ((sameEnds history).mp ends).sameAs_run,
    sameEnds⟩

end Limits

/-- The greatest number of jobs, which stands for fewer slots, and a file that
settles before the one in front of it. -/
theorem run_of_slack_limit_greatest :
    let tree := (FileTree.empty.putFile "a.md" ByteArray.empty).putFile
      "b.md" ByteArray.empty
    let engine : Engine := fun path =>
      ⟨if path = Path.ofText "a.md" then 5 else 0, .diagnostics []⟩
    let jobs : UInt64 := 18446744073709551615
    let inputs := ["a.md", "gone", "b.md"]
    let files : List Path := ["a.md", "b.md"]
    inputs.flatMap (lintedFiles tree) = files ∧
    files.length ≤ jobs.toNat ∧ FitsInMemory files.length ∧
    (run { jobs := some jobs } tree engine inputs).SameAs
      (run {} tree engine inputs) := by
  intro tree engine jobs inputs files
  have filesEq : inputs.flatMap (lintedFiles tree) = files := by
    decide +kernel
  have enough : files.length ≤ jobs.toNat := by decide
  have fits : FitsInMemory files.length :=
    (by decide : 8 * 2 < UInt64.size)
  have slack := (run_of_slack_limit false tree engine inputs).1 jobs
  rw [filesEq] at slack
  exact ⟨filesEq, enough, fits, (slack (Or.inr ⟨enough, fits⟩)).1⟩

end TemplateLint.Dispatch
