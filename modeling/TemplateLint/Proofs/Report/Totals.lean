import TemplateLint.Proofs.Report.Details
import TemplateLint.Proofs.Report.SummaryBlock
import TemplateLint.Proofs.Summary

/-!
# The totals of a summary

The closing line of a summary and its totals determine each other.  A line
that states both errors and warnings can be read in one way only: it gives
their sum, and each of them with its word in the singular or the plural.
-/

namespace TemplateLint.Report

/-! ## Lines that state both counts -/

/-- A number as it is stated, and whether the word behind it stands in the
plural. -/
@[ext]
structure StatedCount where
  number : Nat
  isPlural : Bool
  deriving DecidableEq, Repr

namespace StatedCount

/-- How a count is to be stated. -/
def ofNat (count : Nat) : StatedCount := ⟨count, decide (1 < count)⟩

/-- What stands between the word and what follows it. -/
def letter (stated : StatedCount) : List Char :=
  if stated.isPlural then ['s'] else []

theorem letter_ofNat (count : Nat) :
    (ofNat count).letter = (plural count).toList := by
  by_cases more : 1 < count <;> simp [ofNat, letter, plural, more]

/-- A letter before something that does not begin with one. -/
theorem letter_append_inj {left right : StatedCount} {rest other : List Char}
    {first : Char} (noLetter : first ≠ 's')
    (equal : left.letter ++ first :: rest = right.letter ++ first :: other) :
    left.isPlural = right.isPlural ∧ rest = other := by
  obtain ⟨leftNumber, leftPlural⟩ := left
  obtain ⟨rightNumber, rightPlural⟩ := right
  have letterDiffers := noLetter.symm
  cases leftPlural <;> cases rightPlural <;> simp_all [letter]

end StatedCount

/-- A text states a total and, in brackets, the errors and the warnings that
it is made of. -/
def StatesBoth (text : String) (total : Nat)
    (errors warnings : StatedCount) : Prop :=
  ∃ totalDigits errorDigits warningDigits : List Char,
    IsNumeral totalDigits total ∧ IsNumeral errorDigits errors.number ∧
    IsNumeral warningDigits warnings.number ∧
    text.toList =
      totalDigits ++ ' ' :: ("messages (✘ ".toList ++ (errorDigits ++
        ' ' :: ("error".toList ++ (errors.letter ++
          ',' :: (" ⚠ ".toList ++ (warningDigits ++
            ' ' :: ("warning".toList ++ (warnings.letter ++ [')']))))))))

/-- A number before a blank can be read in one way only. -/
theorem IsNumeral.append_inj {left right rest other : List Char}
    {number otherNumber : Nat} (isLeft : IsNumeral left number)
    (isRight : IsNumeral right otherNumber)
    (equal : left ++ ' ' :: rest = right ++ ' ' :: other) :
    number = otherNumber ∧ rest = other := by
  have cutLeft := (cut?_eq_some_iff ' ' _ left rest).mpr
    ⟨isLeft.not_mem (by decide), rfl⟩
  have cutRight := (cut?_eq_some_iff ' ' _ right other).mpr
    ⟨isRight.not_mem (by decide), equal⟩
  cases cutLeft.symm.trans cutRight
  exact ⟨isLeft.value.symm.trans isRight.value, rfl⟩

theorem StatesBoth.unique {text : String} {total otherTotal : Nat}
    {errors warnings otherErrors otherWarnings : StatedCount}
    (states : StatesBoth text total errors warnings)
    (alsoStates : StatesBoth text otherTotal otherErrors otherWarnings) :
    total = otherTotal ∧ errors = otherErrors ∧ warnings = otherWarnings := by
  obtain ⟨_, _, _, isTotal, isErrors, isWarnings, shape⟩ := states
  obtain ⟨_, _, _, isOtherTotal, isOtherErrors, isOtherWarnings, otherShape⟩ :=
    alsoStates
  -- read from the left: every number ends at a blank, every word at its letter
  obtain ⟨sameTotal, equal⟩ :=
    isTotal.append_inj isOtherTotal (shape.symm.trans otherShape)
  obtain ⟨sameErrors, equal⟩ :=
    isErrors.append_inj isOtherErrors (List.append_cancel_left equal)
  obtain ⟨errorsPlural, equal⟩ := StatedCount.letter_append_inj (by decide)
    (List.append_cancel_left equal)
  obtain ⟨sameWarnings, equal⟩ :=
    isWarnings.append_inj isOtherWarnings (List.append_cancel_left equal)
  obtain ⟨warningsPlural, _⟩ := StatedCount.letter_append_inj (by decide)
    (List.append_cancel_left equal)
  exact ⟨sameTotal, StatedCount.ext sameErrors errorsPlural,
    StatedCount.ext sameWarnings warningsPlural⟩

/-- A line that states both counts begins with the total. -/
theorem StatesBoth.head_isDigit {text : String} {total : Nat}
    {errors warnings : StatedCount}
    (states : StatesBoth text total errors warnings) :
    ∃ digit, text.toList.head? = some digit ∧ digit.isDigit = true := by
  obtain ⟨totalDigits, _, _, isTotal, _, _, shape⟩ := states
  obtain ⟨digit, others, rfl⟩ := List.exists_cons_of_ne_nil isTotal.filled
  exact ⟨digit, by simp [shape], isTotal.allDigits digit List.mem_cons_self⟩

/-! ## Closing lines -/

theorem statesBoth_mixed (errors warnings : Nat) :
    StatesBoth (summaryLine false (.mixed errors warnings)).text
      (errors + warnings) (.ofNat errors) (.ofNat warnings) := by
  refine ⟨_, _, _, isNumeral_toDigits (errors + warnings),
    isNumeral_toDigits errors, isNumeral_toDigits warnings, ?_⟩
  simp [summaryLine, errorsText, warningsText, StatedCount.letter_ofNat]

/-- A line that does not state both counts begins with a sign. -/
theorem exists_sign {kind : SummaryKind}
    (notMixed : ∀ errors warnings, kind ≠ .mixed errors warnings) :
    ∃ sign, (summaryLine false kind).text.toList.head? = some sign ∧
      sign.isDigit = false := by
  cases kind with
  | noErrors => exact ⟨'✔', by decide, by decide⟩
  | errors count =>
      exact ⟨'✘', by simp [summaryLine, errorsText], by decide⟩
  | warnings count =>
      exact ⟨'⚠', by simp [summaryLine, warningsText], by decide⟩
  | mixed errors warnings => exact absurd rfl (notMixed errors warnings)

theorem not_statesBoth {kind : SummaryKind}
    (notMixed : ∀ errors warnings, kind ≠ .mixed errors warnings)
    (total : Nat) (errors warnings : StatedCount) :
    ¬StatesBoth (summaryLine false kind).text total errors warnings := by
  intro states
  obtain ⟨digit, first, isDigit⟩ := states.head_isDigit
  obtain ⟨sign, beginning, noDigit⟩ := exists_sign notMixed
  cases beginning.symm.trans first
  rw [noDigit] at isDigit
  cases isDigit

/-- The closing line of a summary states both counts if neither is zero, and
then it can be read in one way only. -/
theorem statesBoth_summaryLine_iff (summary : Summary) (total : Nat)
    (errors warnings : StatedCount) :
    StatesBoth (summaryLine false summary.kind).text total errors warnings ↔
      (0 < summary.errors ∧ 0 < summary.warnings) ∧
      total = summary.errors + summary.warnings ∧
      errors = .ofNat summary.errors ∧
      warnings = .ofNat summary.warnings := by
  by_cases both : 0 < summary.errors ∧ 0 < summary.warnings
  · rw [Summary.kind_eq_mixed both.1 both.2]
    have states := statesBoth_mixed summary.errors summary.warnings
    constructor
    · exact fun read => ⟨both, read.unique states⟩
    · rintro ⟨_, rfl, rfl, rfl⟩
      exact states
  · have notStated :=
      not_statesBoth (Summary.kind_ne_mixed both) total errors warnings
    exact iff_of_false notStated fun read => both read.1

theorem lineFeed_not_mem_summaryLine (kind : SummaryKind) :
    '\n' ∉ (summaryLine false kind).text.toList := by
  have noDigit := not_mem_toDigits '\n' (by decide)
  have noPlural := not_mem_plural '\n' (by decide)
  cases kind <;>
    simp [summaryLine, errorsText, warningsText, noDigit, noPlural]

/-! ## Blocks of summaries -/

/-- The block of a summary holds what it counts as errors and warnings and
nothing else. -/
theorem summaryBlock_eq_iff (left right : Summary) :
    summaryBlock false left = summaryBlock false right ↔
      left.errors = right.errors ∧ left.warnings = right.warnings := by
  constructor
  · intro sameBlock
    have sameText := congrArg Line.text (List.singleton_inj.mp sameBlock)
    obtain ⟨leftErrors, leftWarnings⟩ := stated_summaryLine left
    obtain ⟨rightErrors, rightWarnings⟩ := stated_summaryLine right
    rw [← leftErrors, ← leftWarnings, ← rightErrors, ← rightWarnings,
      sameText]
    exact ⟨rfl, rfl⟩
  · rintro ⟨sameErrors, sameWarnings⟩
    rw [summaryBlock, summaryBlock, Summary.kind, Summary.kind, sameErrors,
      sameWarnings]

/-- The blocks of two summaries are equal exactly if their errors and their
warnings are.  The block is one line, on the output exactly if there are none
of both.  It states a total exactly if there are some of both: their sum, which
is two at least, each of them in the plural exactly if there is more than
one. -/
theorem summaryBlock_determines_totals (summary : Summary) :
    (∀ other, summaryBlock false summary = summaryBlock false other ↔
      summary.errors = other.errors ∧ summary.warnings = other.warnings) ∧
    ∃ line, summaryBlock false summary = [line] ∧
      '\n' ∉ line.text.toList ∧
      (line.stream = .output ↔ summary.errors = 0 ∧ summary.warnings = 0) ∧
      ((∃ total errors warnings,
          StatesBoth line.text total errors warnings) ↔
        0 < summary.errors ∧ 0 < summary.warnings) ∧
      ∀ total errors warnings,
        StatesBoth line.text total errors warnings →
          errors.number = summary.errors ∧
          warnings.number = summary.warnings ∧
          total = errors.number + warnings.number ∧ 2 ≤ total ∧
          (errors.isPlural = true ↔ 1 < errors.number) ∧
          (warnings.isPlural = true ↔ 1 < warnings.number) := by
  refine ⟨summaryBlock_eq_iff summary, summaryLine false summary.kind, rfl,
    lineFeed_not_mem_summaryLine summary.kind, ?_, ?_, ?_⟩
  · rw [summaryLine_stream, ← Summary.kind_eq_noErrors_iff]
    by_cases noErrors : summary.kind = .noErrors <;> simp [noErrors]
  · simp only [statesBoth_summaryLine_iff]
    exact ⟨fun ⟨_, _, _, read⟩ => read.1,
      fun both => ⟨_, _, _, both, rfl, rfl, rfl⟩⟩
  · intro total errors warnings states
    obtain ⟨⟨someErrors, someWarnings⟩, rfl, rfl, rfl⟩ :=
      (statesBoth_summaryLine_iff summary total errors warnings).mp states
    simp only [StatedCount.ofNat, decide_eq_true_eq, true_and, and_true]
    omega

/-- A missing path and a file with one warning: the least total, with both
words in the singular. -/
theorem summaryBlock_determines_totals_of_two :
    let summary : Summary :=
      { errors := 1, warnings := 1, missing := 1, withDiagnostics := 1 }
    let text := "2 messages (✘ 1 error, ⚠ 1 warning)"
    summaryBlock false summary = [⟨.errors, text⟩] ∧
      summaryBlock false { summary with errors := 11 } ≠
        summaryBlock false summary ∧
      ∃ total errors warnings, StatesBoth text total errors warnings ∧
        total = errors.number + warnings.number ∧ 2 ≤ total ∧
        errors.isPlural = false ∧ warnings.isPlural = false := by
  intro summary text
  have block : summaryBlock false summary = [⟨.errors, text⟩] := by decide
  have elevenErrors :=
    (summaryBlock_determines_totals { summary with errors := 11 }).1 summary
  obtain ⟨_, line, isLine, _, _, mixed, readings⟩ :=
    summaryBlock_determines_totals summary
  cases block.symm.trans isLine
  obtain ⟨total, errors, warnings, states⟩ :=
    mixed.mpr ⟨by decide, by decide⟩
  obtain ⟨oneError, oneWarning, sum, atLeastTwo, errorsPlural,
    warningsPlural⟩ := readings total errors warnings states
  rw [oneError] at errorsPlural
  rw [oneWarning] at warningsPlural
  refine ⟨block, ?_, total, errors, warnings, states, sum, atLeastTwo, ?_, ?_⟩
  · rw [ne_eq, elevenErrors]
    decide
  · rw [← Bool.not_eq_true, errorsPlural]
    decide
  · rw [← Bool.not_eq_true, warningsPlural]
    decide

end TemplateLint.Report
