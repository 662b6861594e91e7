import TemplateLint.Proofs.Dispatch.Interleaving

/-!
# Executions come to their end

As long as an execution is not over, it can be brought closer to its end.  So
every run has an execution, whatever the replies and the delays.
-/

namespace TemplateLint.Dispatch

namespace RunState

variable {settings : Settings} {tree : FileTree} {engine : Engine}
  {inputs : List String}

theorem Reaches.trans {source middle target : RunState}
    (first : Reaches settings tree engine source middle)
    (second : Reaches settings tree engine middle target) :
    Reaches settings tree engine source target := by
  induction second with
  | refl => exact first
  | step _ steps inductionHypothesis => exact inductionHypothesis.step steps

/-! ## What is left to be done -/

/-- A file is submitted, started, finished and taken, and each of these leaves
less to be done. -/
def work (tree : FileTree) (state : RunState) : Nat :=
  state.inputs.length + 4 * (state.pending tree).length +
    3 * state.schedule.queued.length +
    2 * state.schedule.inFlight.length + state.waiting.length

/-- Some way from here leaves less to be done. -/
def Advances (settings : Settings) (tree : FileTree) (engine : Engine)
    (source : RunState) : Prop :=
  ∃ target, Reaches settings tree engine source target ∧
    target.work tree < source.work tree

variable {source : RunState}

theorem advances_of_step {target : RunState}
    (steps : Step settings tree engine source target)
    (less : target.work tree < source.work tree) :
    Advances settings tree engine source :=
  ⟨target, Reaches.refl.step steps, less⟩

/-- Inputs and items can be dealt with at any time. -/
theorem advances_of_not_submitted (unfinished : ¬source.AllSubmitted) :
    Advances settings tree engine source := by
  cases itemsEq : source.items with
  | nil =>
      cases inputsEq : source.inputs with
      | nil => exact absurd ⟨inputsEq, itemsEq⟩ unfinished
      | cons input rest =>
          have pending := pending_of_inputs tree itemsEq inputsEq
          apply advances_of_step (.resolve itemsEq inputsEq)
          simp only [work, ← pending, inputsEq, List.length_cons]
          omega
  | cons item items =>
      cases item with
      | settled path outcome =>
          apply advances_of_step (.report itemsEq)
          simp only [work, pending, settle, itemsEq, List.length_append,
            List.length_cons]
          omega
      | submitted path =>
          apply advances_of_step (.submit itemsEq)
          simp only [work, pending, Schedule.submit, itemsEq,
            List.length_append, List.length_cons, List.length_nil]
          omega

theorem advances_of_start? {schedule : Schedule Path}
    (starts : source.schedule.start? (source.endOf engine) =
      some schedule) :
    Advances settings tree engine source := by
  obtain ⟨path, queued, slots, queuedEq, _, isSchedule⟩ :=
    (Schedule.start?_eq_some_iff _ _ _).mp starts
  apply advances_of_step (.start queuedEq starts)
  rw [isSchedule]
  simp only [work, pending, observe, queuedEq, List.length_append,
    List.length_cons, List.length_nil]
  omega

theorem advances_of_isOver {flight : Flight Path}
    {others : List (Flight Path)}
    (first : Schedule.earliest? source.schedule.inFlight =
      some (flight, others)) (isOver : flight.ends ≤ source.now) :
    Advances settings tree engine source := by
  apply advances_of_step (.finish first isOver)
  obtain ⟨before, after, inFlight, rfl⟩ :=
    Schedule.exists_append_of_earliest? first
  simp only [work, pending, Schedule.settle, inFlight, List.length_append,
    List.length_cons, List.length_nil]
  omega

/-- If nothing can be done before a task is over, time passes until it is. -/
theorem advances_of_earliest? (submitted : source.AllSubmitted)
    (taken : source.waiting = [])
    (blocked : source.schedule.start? (source.endOf engine) = none)
    {flight : Flight Path} {others : List (Flight Path)}
    (first : Schedule.earliest? source.schedule.inFlight =
      some (flight, others)) :
    Advances settings tree engine source := by
  by_cases isOver : flight.ends ≤ source.now
  · exact advances_of_isOver first isOver
  · have waits : Step settings tree engine source
        { source with now := flight.ends } :=
      .wait submitted taken blocked first (Nat.not_le.mp isOver)
    have later : Advances settings tree engine
        { source with now := flight.ends } :=
      advances_of_isOver first (Nat.le_refl _)
    obtain ⟨target, reaches, less⟩ := later
    exact ⟨target, (Reaches.refl.step waits).trans reaches, less⟩

/-! ## The end -/

/-- An execution is over, or it can be brought closer to its end. -/
theorem Consistent.ends_or_advances
    (consistent : Consistent settings tree engine inputs source) :
    (∃ history, Ends settings engine source history) ∨
      Advances settings tree engine source := by
  by_cases submitted : source.AllSubmitted
  case neg => exact Or.inr (advances_of_not_submitted submitted)
  cases waitingEq : source.waiting with
  | cons path waiting =>
      cases settles : (engine path).reply.toOutcome path with
      | error failure => exact Or.inl ⟨_, .fail submitted waitingEq settles⟩
      | ok outcome =>
          refine Or.inr
            (advances_of_step (.take submitted waitingEq settles) ?_)
          simp only [work, pending, settle, waitingEq, List.length_cons]
          omega
  | nil =>
      cases blocked : source.schedule.start? (source.endOf engine) with
      | some schedule => exact Or.inr (advances_of_start? blocked)
      | none =>
          cases first : Schedule.earliest? source.schedule.inFlight with
          | some found =>
              exact Or.inr
                (advances_of_earliest? submitted waitingEq blocked first)
          | none =>
              have landed := (Schedule.earliest?_eq_none_iff _).mp first
              have accounts := (Schedule.accounts_initial _ _).reachable
                (submitted.whole_eq ▸ consistent.reachable)
              have slotLeft := accounts.slots_ne_free_zero
                (slotsFor_ne_free_zero settings.jobs) landed
              have queued := ((Schedule.start?_eq_none_iff _ _).mp
                blocked).resolve_right slotLeft
              exact Or.inl
                ⟨_, .close submitted waitingEq queued landed rfl⟩

theorem Consistent.exists_ends
    (consistent : Consistent settings tree engine inputs source) :
    ∃ last history, Reaches settings tree engine source last ∧
      Ends settings engine last history := by
  induction left : source.work tree using Nat.strongRecOn
    generalizing source with
  | ind count inductionHypothesis =>
      rcases consistent.ends_or_advances with
        ⟨history, ends⟩ | ⟨target, reaches, less⟩
      · exact ⟨source, history, .refl, ends⟩
      · obtain ⟨last, history, later, ends⟩ := inductionHypothesis _
          (left ▸ less) (consistent.reaches reaches) rfl
        exact ⟨last, history, reaches.trans later, ends⟩

end RunState

/-- Every run has an execution. -/
theorem exists_canEndWith (settings : Settings) (tree : FileTree)
    (engine : Engine) (inputs : List String) :
    ∃ history, CanEndWith settings tree engine inputs history := by
  obtain ⟨last, history, reaches, ends⟩ :=
    (RunState.consistent_initial settings tree engine inputs).exists_ends
  exact ⟨history, last, reaches, ends⟩

end TemplateLint.Dispatch
