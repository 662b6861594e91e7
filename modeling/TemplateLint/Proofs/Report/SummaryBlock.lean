import TemplateLint.Report.Render

/-!
# Telling blocks apart

The block of a path is never the block of a summary, and the block of a file
that is not linted is never that of one that is: most have another number of
lines, and the lines of the other ones end in different characters.
-/

namespace TemplateLint.Report

/-! ## How lines end -/

/-- The last character of a text. -/
def lastCharacter? (text : String) : Option Char :=
  text.toList.getLast?

theorem lastCharacter?_append {right : String} {last : Char}
    (ending : lastCharacter? right = some last) (left : String) :
    lastCharacter? (left ++ right) = some last := by
  unfold lastCharacter? at ending ⊢
  rw [String.toList_append, List.getLast?_append, ending]
  rfl

theorem lastCharacter?_paint_true (style : Style) (text : String) :
    lastCharacter? (paint true style text) = some 'm' := by
  simp [lastCharacter?, paint, closing]

theorem lastCharacter?_skipReason (extension : String)
    (allowed : List String) :
    lastCharacter? (skipReason extension allowed) = some ')' :=
  lastCharacter?_append (by decide) _

/-- The closing line of a summary without errors and warnings. -/
theorem lastCharacter?_noErrors (color : Bool) :
    lastCharacter? (summaryLine color .noErrors).text = some 's' :=
  lastCharacter?_append (by decide) _

/-! ## Blocks -/

theorem summaryLine_stream (color : Bool) (kind : SummaryKind) :
    (summaryLine color kind).stream =
      if kind = .noErrors then .output else .errors := by
  cases kind <;> simp [summaryLine]

/-- A line of output that a summary could have ends as it does without
errors. -/
theorem lastCharacter?_of_summaryBlock {color : Bool} {text : String}
    {summary : Summary}
    (equal : ([⟨.output, text⟩] : Block) = summaryBlock color summary) :
    lastCharacter? text = some 's' := by
  have line : (⟨.output, text⟩ : Line) = summaryLine color summary.kind :=
    List.singleton_inj.mp equal
  cases kind : summary.kind with
  | noErrors =>
      rw [kind] at line
      rw [← lastCharacter?_noErrors color, ← line]
  | errors count => simp [kind, summaryLine] at line
  | warnings count => simp [kind, summaryLine] at line
  | mixed errors warnings => simp [kind, summaryLine] at line

theorem lastCharacter?_clean (color : Bool) (path : String) :
    lastCharacter? (paint color .green path ++ ": no issues found") =
      some 'd' :=
  lastCharacter?_append (by decide) _

/-- A line about a file that is not linted ends with its reason, or with the
end of a style. -/
theorem lastCharacter?_skipped (color : Bool) (allowed : List String)
    (path extension : String) :
    lastCharacter?
        (paint color .green path ++ ": not scanning " ++
          paint color .dimmed (skipReason extension allowed)) =
      some (if color then 'm' else ')') := by
  apply lastCharacter?_append
  cases color with
  | false => exact lastCharacter?_skipReason extension allowed
  | true => exact lastCharacter?_paint_true .dimmed _

theorem cleanBlock_ne_summaryBlock (color : Bool) (path : String)
    (summary : Summary) :
    cleanBlock color path ≠ summaryBlock color summary := by
  intro equal
  have endsInS := lastCharacter?_of_summaryBlock equal
  rw [lastCharacter?_clean] at endsInS
  exact absurd endsInS (by decide)

theorem skippedBlock_ne_summaryBlock (color : Bool)
    (allowed : List String) (path extension : String) (summary : Summary) :
    skippedBlock color allowed path extension ≠
      summaryBlock color summary := by
  intro equal
  have endsInS := lastCharacter?_of_summaryBlock equal
  rw [lastCharacter?_skipped] at endsInS
  cases color <;> exact absurd endsInS (by decide)

theorem cleanBlock_ne_skippedBlock (color : Bool) (allowed : List String)
    (cleanPath path extension : String) :
    cleanBlock color cleanPath ≠
      skippedBlock color allowed path extension := by
  intro equal
  have sameText := congrArg Line.text (List.singleton_inj.mp equal)
  have sameEnd := congrArg lastCharacter? sameText
  rw [lastCharacter?_clean, lastCharacter?_skipped] at sameEnd
  cases color <;> exact absurd sameEnd (by decide)

theorem length_diagnosticsBlock {diagnostics : List Diagnostic}
    (filled : diagnostics ≠ []) (color : Bool) (path : String) :
    (diagnosticsBlock color path diagnostics).length =
      diagnostics.length + 2 := by
  simp [diagnosticsBlock, filled]

theorem diagnosticsBlock_ne_summaryBlock (color : Bool) (path : String)
    (diagnostics : List Diagnostic) (summary : Summary) :
    diagnosticsBlock color path diagnostics ≠
      summaryBlock color summary := by
  by_cases empty : diagnostics = []
  · subst empty
    exact cleanBlock_ne_summaryBlock color path summary
  · intro equal
    have lengths := congrArg List.length equal
    rw [length_diagnosticsBlock empty, summaryBlock_length] at lengths
    omega

theorem diagnosticsBlock_ne_skippedBlock (color : Bool)
    (allowed : List String) (diagnostics : List Diagnostic)
    (checked path extension : String) :
    diagnosticsBlock color checked diagnostics ≠
      skippedBlock color allowed path extension := by
  by_cases empty : diagnostics = []
  · subst empty
    exact cleanBlock_ne_skippedBlock color allowed checked path extension
  · intro equal
    have lengths := congrArg List.length equal
    rw [length_diagnosticsBlock empty] at lengths
    simp [skippedBlock] at lengths

/-- No outcome is reported as if it were a summary. -/
theorem outcomeBlock_ne_summaryBlock (color : Bool)
    (allowed : List String) (path : String) (outcome : Outcome)
    (summary : Summary) :
    outcomeBlock color allowed path outcome ≠
      summaryBlock color summary := by
  cases outcome with
  | missing =>
      intro equal
      have lengths := congrArg List.length equal
      simp [outcomeBlock, missingBlock] at lengths
  | skipped extension =>
      exact skippedBlock_ne_summaryBlock color allowed path extension summary
  | clean => exact cleanBlock_ne_summaryBlock color path summary
  | linted diagnostics =>
      exact diagnosticsBlock_ne_summaryBlock color path diagnostics summary
  | passedOver failure =>
      intro equal
      have lengths := congrArg List.length equal
      simp [outcomeBlock] at lengths

end TemplateLint.Report
