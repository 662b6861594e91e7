import TemplateLint.Proofs.Dispatch.RunOutcome
import TemplateLint.Proofs.Summary

/-!
# The summary of a run

What a run counts does not depend on the order in which its files settle.  It
counts a file with diagnostics exactly if the linter found something in one of
them, and a missing path exactly if one of the inputs does not exist.
-/

namespace TemplateLint.Dispatch

open Report

variable (tree : FileTree) (engine : Engine) (inputs : List String)

/-! ## Parts of a run -/

theorem summaryOf_cons (path : Path) (outcome : Outcome)
    (rest : List (Path × Outcome)) :
    summaryOf ((path, outcome) :: rest) =
      (Summary.ofOutcome outcome).merge (summaryOf rest) :=
  Summary.mergeAll_cons _ _

theorem summaryOf_append (left right : List (Path × Outcome)) :
    summaryOf (left ++ right) = (summaryOf left).merge (summaryOf right) := by
  rw [summaryOf, List.map_append, Summary.mergeAll_append]
  rfl

/-! ## Order -/

theorem summaryOf_perm {left right : List (Path × Outcome)}
    (permutation : left.Perm right) : summaryOf left = summaryOf right :=
  Summary.mergeAll_perm (permutation.map _)

theorem settledOutcomes_perm {left right : List Path}
    (permutation : left.Perm right) :
    (settledOutcomes tree engine inputs left).Perm
      (settledOutcomes tree engine inputs right) :=
  (permutation.filterMap _).append_left _

/-! ## Counts -/

theorem consistent_summaryOf (outcomes : List (Path × Outcome)) :
    (summaryOf outcomes).Consistent := by
  refine Summary.consistent_mergeAll fun part member => ?_
  obtain ⟨entry, _, rfl⟩ := List.mem_map.mp member
  exact Summary.consistent_empty.record entry.2

/-- A count that merging adds up is positive exactly if some outcome adds to
it. -/
theorem count_summaryOf_pos_iff (count : Summary → Nat)
    (count_empty : count Summary.empty = 0)
    (count_merge : ∀ left right : Summary,
      count (left.merge right) = count left + count right)
    (outcomes : List (Path × Outcome)) :
    0 < count (summaryOf outcomes) ↔
      ∃ path outcome, (path, outcome) ∈ outcomes ∧
        0 < count (Summary.ofOutcome outcome) := by
  rw [summaryOf,
    Summary.count_mergeAll_pos_iff count count_empty count_merge]
  constructor
  · rintro ⟨part, member, positive⟩
    obtain ⟨⟨path, outcome⟩, inOutcomes, rfl⟩ := List.mem_map.mp member
    exact ⟨path, outcome, inOutcomes, positive⟩
  · rintro ⟨path, outcome, inOutcomes, positive⟩
    exact
      ⟨Summary.ofOutcome outcome,
        List.mem_map.mpr ⟨(path, outcome), inOutcomes, rfl⟩, positive⟩

theorem mem_settledOutcomes_iff (files : List Path) (path : Path)
    (outcome : Outcome) :
    (path, outcome) ∈ settledOutcomes tree engine inputs files ↔
      (∃ input ∈ inputs, path = Path.ofText input ∧
        outcomeAtOnce? tree input = some outcome) ∨
        (path ∈ files ∧
          (engine path).reply.toOutcome path = .ok outcome) := by
  unfold settledOutcomes
  rw [List.mem_append, List.mem_filterMap, List.mem_filterMap]
  refine or_congr ?_ ?_
  · constructor
    · rintro ⟨input, member, settled⟩
      obtain ⟨_, atOnce, equal⟩ := Option.map_eq_some_iff.mp settled
      cases equal
      exact ⟨input, member, rfl, atOnce⟩
    · rintro ⟨input, member, rfl, atOnce⟩
      exact ⟨input, member, by simp [settledInput?, atOnce]⟩
  · constructor
    · rintro ⟨file, member, settled⟩
      obtain ⟨rfl, settles⟩ :=
        (settledFile?_eq_some_iff engine file path outcome).mp settled
      exact ⟨member, settles⟩
    · rintro ⟨member, settles⟩
      exact
        ⟨path, member,
          (settledFile?_eq_some_iff engine path path outcome).mpr
            ⟨rfl, settles⟩⟩

theorem outcomeAtOnce?_eq_missing_iff (input : String) :
    outcomeAtOnce? tree input = some .missing ↔
      tree.resolve defaultExtensions input = .missing := by
  unfold outcomeAtOnce?
  cases tree.resolve defaultExtensions input with
  | missing => simp
  | directory paths => simp
  | file => by_cases linted : extensionOf input ∈ defaultExtensions <;>
      simp [linted]

theorem outcomeAtOnce?_ne_linted (input : String)
    (diagnostics : List Diagnostic) :
    outcomeAtOnce? tree input ≠ some (.linted diagnostics) := by
  unfold outcomeAtOnce?
  cases tree.resolve defaultExtensions input with
  | missing => simp
  | directory paths => simp
  | file => by_cases linted : extensionOf input ∈ defaultExtensions <;>
      simp [linted]

theorem toOutcome_eq_linted_iff (path : Path) (reply : Reply)
    (first : Diagnostic) (rest : List Diagnostic) :
    reply.toOutcome path = .ok (.linted (first :: rest)) ↔
      reply = .diagnostics (first :: rest) := by
  rw [Reply.toOutcome_eq_ok_iff]
  constructor
  · rintro (⟨found, rfl, outcome⟩ | ⟨_, _, _, outcome⟩)
    · cases found with
      | nil => cases outcome
      | cons head tail =>
          cases outcome
          rfl
    · cases outcome
  · rintro rfl
    exact Or.inl ⟨first :: rest, rfl, rfl⟩

theorem toOutcome_ne_missing (path : Path) (reply : Reply) :
    reply.toOutcome path ≠ .ok .missing := by
  rw [Ne, Reply.toOutcome_eq_ok_iff]
  rintro (⟨found, _, outcome⟩ | ⟨_, _, _, outcome⟩)
  · cases found <;> cases outcome
  · cases outcome

/-- A file with diagnostics is counted exactly if the linter found something
in some file. -/
theorem withDiagnostics_settledOutcomes_pos_iff (files : List Path) :
    0 < (summaryOf
        (settledOutcomes tree engine inputs files)).withDiagnostics ↔
      ∃ path ∈ files, ∃ first rest,
        (engine path).reply = .diagnostics (first :: rest) := by
  rw [count_summaryOf_pos_iff Summary.withDiagnostics rfl
    (fun _ _ => rfl)]
  constructor
  · rintro ⟨path, outcome, member, positive⟩
    obtain ⟨first, rest, rfl⟩ :=
      (Summary.withDiagnostics_ofOutcome_pos_iff outcome).mp positive
    rcases (mem_settledOutcomes_iff tree engine inputs files path _).mp
      member with ⟨input, _, _, atOnce⟩ | ⟨inFiles, settles⟩
    · exact absurd atOnce (outcomeAtOnce?_ne_linted tree input _)
    · exact
        ⟨path, inFiles, first, rest,
          (toOutcome_eq_linted_iff path _ first rest).mp settles⟩
  · rintro ⟨path, inFiles, first, rest, found⟩
    refine
      ⟨path, .linted (first :: rest), ?_,
        (Summary.withDiagnostics_ofOutcome_pos_iff _).mpr
          ⟨first, rest, rfl⟩⟩
    exact (mem_settledOutcomes_iff tree engine inputs files path _).mpr
      (Or.inr ⟨inFiles,
        (toOutcome_eq_linted_iff path _ first rest).mpr found⟩)

/-- A missing path is counted exactly if some input does not exist. -/
theorem missing_settledOutcomes_pos_iff (files : List Path) :
    0 < (summaryOf
        (settledOutcomes tree engine inputs files)).missing ↔
      ∃ input ∈ inputs,
        tree.resolve defaultExtensions input = .missing := by
  rw [count_summaryOf_pos_iff Summary.missing rfl (fun _ _ => rfl)]
  constructor
  · rintro ⟨path, outcome, member, positive⟩
    obtain rfl := (Summary.missing_ofOutcome_pos_iff outcome).mp positive
    rcases (mem_settledOutcomes_iff tree engine inputs files path _).mp
      member with ⟨input, inInputs, _, atOnce⟩ | ⟨_, settles⟩
    · exact ⟨input, inInputs,
        (outcomeAtOnce?_eq_missing_iff tree input).mp atOnce⟩
    · exact absurd settles (toOutcome_ne_missing path _)
  · rintro ⟨input, inInputs, resolved⟩
    refine
      ⟨input, .missing, ?_, (Summary.missing_ofOutcome_pos_iff _).mpr rfl⟩
    exact (mem_settledOutcomes_iff tree engine inputs files input _).mpr
      (Or.inl ⟨input, inInputs, rfl,
        (outcomeAtOnce?_eq_missing_iff tree input).mpr resolved⟩)

end TemplateLint.Dispatch
