import TemplateLint.Proofs.Dispatch.Progress

/-!
# How far the inputs have been resolved

Resolving an input changes nothing that can be seen.  So two executions that
have the same items left to be dealt with can go on in the same way, whatever
inputs the items come from, and runs whose inputs stand for the same items have
the same histories.
-/

namespace TemplateLint.Dispatch

namespace RunState

variable {settings : Settings} {tree : FileTree} {engine : Engine}
  {left right : RunState}

/-- Executions that are the same apart from how far their inputs have been
resolved. -/
def SamePending (tree : FileTree) (left right : RunState) : Prop :=
  ∃ inputs items, right = { left with inputs := inputs, items := items } ∧
    right.pending tree = left.pending tree

theorem SamePending.refl (state : RunState) :
    SamePending tree state state :=
  ⟨_, _, rfl, rfl⟩

theorem SamePending.trans {middle : RunState}
    (first : SamePending tree left middle)
    (second : SamePending tree middle right) :
    SamePending tree left right := by
  obtain ⟨_, _, rfl, samePending⟩ := first
  obtain ⟨inputs, items, rfl, samePending'⟩ := second
  exact ⟨inputs, items, rfl, samePending'.trans samePending⟩

/-- Inputs can be resolved until there is an item, or none is left. -/
theorem exists_resolved (settings : Settings) (engine : Engine)
    (source : RunState) :
    ∃ target, Reaches settings tree engine source target ∧
      SamePending tree source target ∧
      (target.items = [] → target.inputs = []) := by
  induction inputsEq : source.inputs generalizing source with
  | nil => exact ⟨source, .refl, .refl source, fun _ => inputsEq⟩
  | cons input rest inductionHypothesis =>
      by_cases done : source.items = []
      · have resolves : Step settings tree engine source _ :=
          .resolve done inputsEq
        have same : SamePending tree source
            { source with
              inputs := rest
              items := itemsOfInput tree defaultExtensions input } :=
          ⟨_, _, rfl, (pending_of_inputs tree done inputsEq).symm⟩
        obtain ⟨target, reaches, later, atItem⟩ := inductionHypothesis
          { source with
            inputs := rest
            items := itemsOfInput tree defaultExtensions input } rfl
        exact ⟨target, (Reaches.refl.step resolves).trans reaches,
          same.trans later, atItem⟩
      · exact ⟨source, .refl, .refl source, fun none => absurd none done⟩

namespace SamePending

variable (settings engine) (same : SamePending tree left right)

include same

/-- If everything has been submitted on one side, nothing but resolving is left
on the other. -/
theorem reaches_of_submitted (submitted : left.AllSubmitted) :
    Reaches settings tree engine right left := by
  obtain ⟨target, reaches, later, atItem⟩ :=
    exists_resolved settings engine right
  obtain ⟨inputs, items, rfl, samePending⟩ := same.trans later
  rw [submitted.pending_eq_nil, pending, List.append_eq_nil_iff]
    at samePending
  have noItems : items = [] := samePending.1
  have noInputs : inputs = [] := atItem noItems
  rw [noItems, noInputs, ← submitted.items, ← submitted.inputs] at reaches
  exact reaches

/-- An item that is next on one side can be made next on the other. -/
theorem exists_item {item : Item} {items : List Item}
    (next : left.items = item :: items) :
    ∃ inputs others,
      Reaches settings tree engine right
        { left with inputs := inputs, items := item :: others } ∧
      { left with inputs := inputs, items := others }.pending tree =
        { left with items := items }.pending tree := by
  obtain ⟨target, reaches, later, atItem⟩ :=
    exists_resolved settings engine right
  obtain ⟨inputs, targetItems, rfl, samePending⟩ := same.trans later
  rw [pending_of_items tree next] at samePending
  cases targetItems with
  | nil =>
      have noInputs : inputs = [] := atItem rfl
      rw [noInputs] at samePending
      cases samePending
  | cons other others =>
      rw [pending_of_items tree rfl] at samePending
      obtain ⟨rfl, rest⟩ := List.cons.inj samePending
      exact ⟨inputs, others, reaches, rest⟩

variable {settings engine}

/-- Whatever one side does, the other can do as well. -/
theorem exists_step {next : RunState}
    (steps : Step settings tree engine left next) :
    ∃ target, Reaches settings tree engine right target ∧
      SamePending tree next target := by
  cases steps with
  | resolve done next =>
      obtain ⟨inputs, items, rfl, samePending⟩ := same
      exact ⟨_, .refl, inputs, items, rfl,
        samePending.trans (pending_of_inputs tree done next)⟩
  | report next =>
      obtain ⟨inputs, others, reaches, rest⟩ :=
        same.exists_item settings engine next
      exact ⟨_, reaches.step (.report rfl), inputs, others, rfl, rest⟩
  | submit next =>
      obtain ⟨inputs, others, reaches, rest⟩ :=
        same.exists_item settings engine next
      exact ⟨_, reaches.step (.submit rfl), inputs, others, rfl, rest⟩
  | start next starts =>
      obtain ⟨inputs, items, rfl, samePending⟩ := same
      exact ⟨_, Reaches.refl.step (.start next starts), inputs, items, rfl,
        samePending⟩
  | finish first isOver =>
      obtain ⟨inputs, items, rfl, samePending⟩ := same
      exact ⟨_, Reaches.refl.step (.finish first isOver), inputs, items, rfl,
        samePending⟩
  | take submitted next settles =>
      have reaches := same.reaches_of_submitted settings engine submitted
      exact ⟨_, reaches.step (.take submitted next settles), .refl _⟩
  | wait submitted taken blocked first later =>
      have reaches := same.reaches_of_submitted settings engine submitted
      exact ⟨_, reaches.step (.wait submitted taken blocked first later),
        .refl _⟩

theorem exists_reaches {last : RunState}
    (reaches : Reaches settings tree engine left last) :
    ∃ target, Reaches settings tree engine right target ∧
      SamePending tree last target := by
  induction reaches with
  | refl => exact ⟨right, .refl, same⟩
  | step _ steps inductionHypothesis =>
      obtain ⟨middle, reached, sameMiddle⟩ := inductionHypothesis
      obtain ⟨target, later, sameTarget⟩ := sameMiddle.exists_step steps
      exact ⟨target, reached.trans later, sameTarget⟩

theorem exists_ends {last : RunState} {history : History}
    (reaches : Reaches settings tree engine left last)
    (ends : Ends settings engine last history) :
    ∃ target, Reaches settings tree engine right target ∧
      Ends settings engine target history := by
  obtain ⟨target, reached, sameTarget⟩ := same.exists_reaches reaches
  have submitted : last.AllSubmitted := by
    cases ends with
    | fail submitted _ _ => exact submitted
    | close submitted _ _ _ _ => exact submitted
  exact ⟨last,
    reached.trans (sameTarget.reaches_of_submitted settings engine submitted),
    ends⟩

end SamePending

end RunState

/-- Runs whose inputs stand for the same items can end in the same ways. -/
theorem CanEndWith.of_itemsOf_eq {settings : Settings} {tree : FileTree}
    {engine : Engine} {inputs others : List String} {history : History}
    (ends : CanEndWith settings tree engine inputs history)
    (sameItems : itemsOf tree defaultExtensions others =
      itemsOf tree defaultExtensions inputs) :
    CanEndWith settings tree engine others history := by
  obtain ⟨last, reaches, ends⟩ := ends
  have same : RunState.SamePending tree (.initial settings inputs)
      (.initial settings others) := ⟨others, [], rfl, sameItems⟩
  exact same.exists_ends reaches ends

end TemplateLint.Dispatch
