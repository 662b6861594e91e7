import Mathlib.Data.List.TakeWhile
import TemplateLint.Report.Render

/-!
# Reading a plain report

What a reader of a report without color takes from its lines: the severity of
a detail, and the numbers of errors and warnings that a summary states.
-/

namespace TemplateLint.Report

/-! ## Words and numbers -/

theorem decide_ne_of_mem {separator : Char} {word : List Char}
    (solid : separator ∉ word) :
    ∀ character ∈ word, decide (character ≠ separator) = true := by
  intro character member
  exact decide_eq_true fun equal => solid (equal ▸ member)

theorem takeWhile_ne_append {separator : Char} {word : List Char}
    (solid : separator ∉ word) (rest : List Char) :
    (word ++ separator :: rest).takeWhile (· ≠ separator) = word := by
  rw [List.takeWhile_append_of_pos (decide_ne_of_mem solid),
    List.takeWhile_cons]
  simp

theorem dropWhile_ne_append {separator : Char} {word : List Char}
    (solid : separator ∉ word) (rest : List Char) :
    (word ++ separator :: rest).dropWhile (· ≠ separator) =
      separator :: rest := by
  rw [List.dropWhile_append_of_pos (decide_ne_of_mem solid),
    List.dropWhile_cons]
  simp

theorem not_mem_toDigits (character : Char)
    (notDigit : character.isDigit = false) (number : Nat) :
    character ∉ Nat.toDigits 10 number := by
  intro member
  have isDigit :=
    Nat.isDigit_of_mem_toDigits (by decide) (by decide) member
  rw [notDigit] at isDigit
  cases isDigit

/-- The number behind a sign and a blank; zero if the sign is not there. -/
def numberBehind (sign : Char) (text : String) : Nat :=
  let behind := (text.toList.dropWhile (· ≠ sign)).drop 2
  Nat.ofDigitChars 10 (behind.takeWhile Char.isDigit) 0

theorem numberBehind_of_not_mem {sign : Char} {text : String}
    (absent : sign ∉ text.toList) : numberBehind sign text = 0 := by
  have nothingLeft : text.toList.dropWhile (· ≠ sign) = [] :=
    List.dropWhile_eq_nil_iff.mpr (decide_ne_of_mem absent)
  rw [numberBehind, nothingLeft]
  rfl

theorem numberBehind_of_append {sign : Char} {text : String} {number : Nat}
    (before after : List Char)
    (shape : text.toList =
      before ++ sign :: ' ' :: (Nat.toDigits 10 number ++ ' ' :: after))
    (first : sign ∉ before) : numberBehind sign text = number := by
  have digits : ∀ character ∈ Nat.toDigits 10 number,
      character.isDigit = true := fun _ member =>
    Nat.isDigit_of_mem_toDigits (by decide) (by decide) member
  have behind : (text.toList.dropWhile (· ≠ sign)).drop 2 =
      Nat.toDigits 10 number ++ ' ' :: after := by
    rw [shape, dropWhile_ne_append first]
    rfl
  rw [numberBehind, behind, List.takeWhile_append_of_pos digits]
  simp [Nat.ofDigitChars_ten_toDigits]

/-! ## Details -/

/-- The word for the severity of a detail.  It stands behind the position,
with two blanks on either side. -/
def detailLabel (text : String) : String :=
  let position := text.toList.drop 2
  let behind := (position.dropWhile (· ≠ ' ')).drop 2
  String.ofList (behind.takeWhile (· ≠ ' '))

theorem detailLabel_eq {text label : String} (position rest : List Char)
    (shape : text.toList =
      ' ' :: ' ' :: (position ++ ' ' :: ' ' :: (label.toList ++ ' ' :: rest)))
    (solidPosition : ' ' ∉ position) (solidLabel : ' ' ∉ label.toList) :
    detailLabel text = label := by
  have behind :
      ((text.toList.drop 2).dropWhile (· ≠ ' ')).drop 2 =
        label.toList ++ ' ' :: rest := by
    rw [shape, List.drop_succ_cons, List.drop_succ_cons, List.drop_zero,
      dropWhile_ne_append solidPosition]
    rfl
  rw [detailLabel, behind, takeWhile_ne_append solidLabel,
    String.ofList_toList]

theorem not_mem_label (severity : Severity) :
    ' ' ∉ severity.label.toList := by
  cases severity <;> decide

theorem detailLabel_detail (diagnostic : Diagnostic) :
    detailLabel (detail false diagnostic).text =
      diagnostic.severity.label := by
  let line := Nat.toDigits 10 diagnostic.line.toNat
  let column := Nat.toDigits 10 diagnostic.column.toNat
  let endColumn := Nat.toDigits 10 diagnostic.endColumn
  have solid : ' ' ∉ line ++ ':' :: column ++ '-' :: line ++
      ':' :: endColumn := by
    have noBlank := not_mem_toDigits ' ' (by decide)
    simp [line, column, endColumn, noBlank]
  refine detailLabel_eq _ (' ' :: diagnostic.headline.toList) ?_ solid
    (not_mem_label diagnostic.severity)
  simp [detail, line, column, endColumn]

theorem detailLabel_missingDetail :
    detailLabel (missingDetail false).text = "error" := by
  decide

/-! ## Summaries -/

/-- The number of errors that the line of a summary states. -/
def statedErrors (text : String) : Nat :=
  numberBehind '✘' text

/-- The number of warnings that the line of a summary states. -/
def statedWarnings (text : String) : Nat :=
  numberBehind '⚠' text

theorem not_mem_plural (character : Char) (noLetter : character ≠ 's')
    (count : Nat) : character ∉ (plural count).toList := by
  unfold plural
  split
  · simpa using noLetter
  · simp

theorem stated_errorsText (count : Nat) :
    statedErrors (errorsText false count) = count ∧
      statedWarnings (errorsText false count) = 0 := by
  constructor
  · refine numberBehind_of_append []
      ("error".toList ++ (plural count).toList) ?_ (by simp)
    simp [errorsText]
  · apply numberBehind_of_not_mem
    have noNumber := not_mem_toDigits '⚠' (by decide) count
    have noPlural := not_mem_plural '⚠' (by decide) count
    simp [errorsText, noNumber, noPlural]

theorem stated_warningsText (count : Nat) :
    statedErrors (warningsText false count) = 0 ∧
      statedWarnings (warningsText false count) = count := by
  constructor
  · apply numberBehind_of_not_mem
    have noNumber := not_mem_toDigits '✘' (by decide) count
    have noPlural := not_mem_plural '✘' (by decide) count
    simp [warningsText, noNumber, noPlural]
  · refine numberBehind_of_append []
      ("warning".toList ++ (plural count).toList) ?_ (by simp)
    simp [warningsText]

theorem stated_mixed (errors warnings : Nat) :
    statedErrors (summaryLine false (.mixed errors warnings)).text =
        errors ∧
      statedWarnings (summaryLine false (.mixed errors warnings)).text =
        warnings := by
  let total := Nat.toDigits 10 (errors + warnings)
  constructor
  · have noSign := not_mem_toDigits '✘' (by decide)
    refine numberBehind_of_append (total ++ " messages (".toList)
      ("error".toList ++ (plural errors).toList ++ ", ".toList ++
        (warningsText false warnings).toList ++ ")".toList) ?_ ?_
    · simp [summaryLine, errorsText, total]
    · simp [total, noSign]
  · have noSign := not_mem_toDigits '⚠' (by decide)
    have noPlural := not_mem_plural '⚠' (by decide)
    refine numberBehind_of_append
      (total ++ " messages (".toList ++
        (errorsText false errors).toList ++ ", ".toList)
      ("warning".toList ++ (plural warnings).toList ++ ")".toList) ?_ ?_
    · simp [summaryLine, warningsText, total]
    · simp [errorsText, total, noSign, noPlural]

/-- The line of a summary states its errors and its warnings. -/
theorem stated_summaryLine (summary : Summary) :
    statedErrors (summaryLine false summary.kind).text = summary.errors ∧
      statedWarnings (summaryLine false summary.kind).text =
        summary.warnings := by
  unfold Summary.kind
  cases errors : summary.errors with
  | zero =>
      cases warnings : summary.warnings with
      | zero => decide
      | succ others => exact stated_warningsText (others + 1)
  | succ otherErrors =>
      cases warnings : summary.warnings with
      | zero => exact stated_errorsText (otherErrors + 1)
      | succ otherWarnings =>
          exact stated_mixed (otherErrors + 1) (otherWarnings + 1)

end TemplateLint.Report
