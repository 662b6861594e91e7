import Mathlib.Data.List.Forall2
import TemplateLint.Proofs.Path
import TemplateLint.Proofs.Report.Agreement

/-!
# Reading details back

A block with diagnostics is written line by line.  Cut at its line feeds, the
text gives back the path and, for each diagnostic, what is shown of it.  A line
can be read as a detail in at most one way, whatever the messages look like.
-/

namespace TemplateLint

/-- What a report shows of a diagnostic. -/
structure Shown where
  line : Nat
  column : Nat
  endColumn : Nat
  severity : Severity
  headline : String
  deriving DecidableEq, Repr

/-- The end of a diagnostic is shown as far as 32 bits can tell it, its message
up to the first line feed. -/
def Diagnostic.shown (diagnostic : Diagnostic) : Shown where
  line := diagnostic.line.toNat
  column := diagnostic.column.toNat
  endColumn :=
    min (diagnostic.column.toNat + diagnostic.length.toNat) 4294967295
  severity := diagnostic.severity
  headline :=
    String.ofList (diagnostic.message.toList.takeWhile (· ≠ '\n'))

namespace Report

/-! ## Numbers and words -/

/-- Decimal digits, of which the first may be zeros. -/
structure IsNumeral (digits : List Char) (number : Nat) : Prop where
  filled : digits ≠ []
  allDigits : ∀ character ∈ digits, character.isDigit = true
  value : Nat.ofDigitChars 10 digits 0 = number

/-- The number that digits stand for, if there is nothing else. -/
def numeral? (digits : List Char) : Option Nat :=
  if digits ≠ [] ∧ digits.all Char.isDigit = true then
    some (Nat.ofDigitChars 10 digits 0)
  else none

theorem numeral?_eq_some_iff (digits : List Char) (number : Nat) :
    numeral? digits = some number ↔ IsNumeral digits number := by
  unfold numeral?
  constructor
  · intro read
    split at read
    · next numeral =>
        exact ⟨numeral.1, List.all_eq_true.mp numeral.2,
          Option.some.inj read⟩
    · cases read
  · rintro ⟨filled, allDigits, value⟩
    rw [if_pos ⟨filled, List.all_eq_true.mpr allDigits⟩, value]

theorem isNumeral_toDigits (number : Nat) :
    IsNumeral (Nat.toDigits 10 number) number where
  filled := Nat.toDigits_ne_nil
  allDigits _ member :=
    Nat.isDigit_of_mem_toDigits (by decide) (by decide) member
  value := Nat.ofDigitChars_ten_toDigits

theorem IsNumeral.not_mem {digits : List Char} {number : Nat}
    (numeral : IsNumeral digits number) {character : Char}
    (notDigit : character.isDigit = false) : character ∉ digits := by
  intro member
  rw [numeral.allDigits character member] at notDigit
  cases notDigit

/-- The severity that a word stands for. -/
def severity? (word : List Char) : Option Severity :=
  if word = Severity.error.label.toList then some .error
  else if word = Severity.warning.label.toList then some .warning
  else none

theorem severity?_eq_some_iff (word : List Char) (severity : Severity) :
    severity? word = some severity ↔ word = severity.label.toList := by
  unfold severity?
  by_cases error : word = Severity.error.label.toList
  · subst error
    cases severity <;> decide
  · by_cases warning : word = Severity.warning.label.toList
    · subst warning
      cases severity <;> decide
    · cases severity <;> simp [error, warning]

/-! ## Cutting a text -/

/-- The text before the first separator and the text behind it. -/
def cut? (separator : Char) (text : List Char) :
    Option (List Char × List Char) :=
  match text.dropWhile (· ≠ separator) with
  | [] => none
  | _ :: behind => some (text.takeWhile (· ≠ separator), behind)

theorem cut?_eq_some_iff (separator : Char)
    (text before behind : List Char) :
    cut? separator text = some (before, behind) ↔
      separator ∉ before ∧ text = before ++ separator :: behind := by
  constructor
  · intro found
    unfold cut? at found
    split at found
    · cases found
    · next first rest dropped =>
        cases found
        have notSeparator : ¬ decide (first ≠ separator) = true := by
          have stops := List.head?_dropWhile_not
            (fun character => decide (character ≠ separator)) text
          rw [dropped] at stops
          simpa using stops
        have isSeparator : first = separator := by simpa using notSeparator
        have whole := List.takeWhile_append_dropWhile
          (p := fun character => decide (character ≠ separator)) (l := text)
        rw [dropped, isSeparator] at whole
        refine ⟨fun member => ?_, whole.symm⟩
        have differs := List.mem_takeWhile_imp member
        simp at differs
  · rintro ⟨solid, rfl⟩
    rw [cut?, dropWhile_ne_append solid, takeWhile_ne_append solid]

/-! ## Details -/

/-- A text is the detail of what is shown: two blanks, the lines and columns,
two blanks, the word for the severity, two blanks and the headline. -/
def IsDetail (text : String) (shown : Shown) : Prop :=
  ∃ line column lineAgain endColumn : List Char,
    IsNumeral line shown.line ∧ IsNumeral column shown.column ∧
    IsNumeral lineAgain shown.line ∧ IsNumeral endColumn shown.endColumn ∧
    text.toList =
      ' ' :: ' ' :: (line ++ ':' :: (column ++ '-' :: (lineAgain ++
        ':' :: (endColumn ++ ' ' :: ' ' :: (shown.severity.label.toList ++
          ' ' :: ' ' :: shown.headline.toList)))))

/-- The position at the front of a text: two lines that must be the same, and
the columns. -/
def readPosition? (text : List Char) :
    Option ((Nat × Nat × Nat) × List Char) := do
  let (line, text) ← cut? ':' text
  let (column, text) ← cut? '-' text
  let (lineAgain, text) ← cut? ':' text
  let (endColumn, text) ← cut? ' ' text
  let line ← numeral? line
  let column ← numeral? column
  let lineAgain ← numeral? lineAgain
  let endColumn ← numeral? endColumn
  if line = lineAgain then some ((line, column, endColumn), text) else none

theorem readPosition?_eq_some_iff (text behind : List Char)
    (line column endColumn : Nat) :
    readPosition? text = some ((line, column, endColumn), behind) ↔
      ∃ lineText columnText lineAgain endText : List Char,
        IsNumeral lineText line ∧ IsNumeral columnText column ∧
        IsNumeral lineAgain line ∧ IsNumeral endText endColumn ∧
        text = lineText ++ ':' :: (columnText ++ '-' :: (lineAgain ++
          ':' :: (endText ++ ' ' :: behind))) := by
  simp only [readPosition?, bind, Option.bind_eq_some_iff, Prod.exists,
    cut?_eq_some_iff, numeral?_eq_some_iff]
  constructor
  · rintro ⟨lineText, _, ⟨_, rfl⟩, columnText, _, ⟨_, rfl⟩, lineAgain, _,
      ⟨_, rfl⟩, endText, _, ⟨_, rfl⟩, _, isLine, _, isColumn, _, isAgain, _,
      isEnd, same⟩
    split at same
    · next equal =>
        cases same
        exact ⟨lineText, columnText, lineAgain, endText, isLine, isColumn,
          equal ▸ isAgain, isEnd, rfl⟩
    · cases same
  · rintro ⟨lineText, columnText, lineAgain, endText, isLine, isColumn,
      isAgain, isEnd, rfl⟩
    exact ⟨lineText, _, ⟨isLine.not_mem (by decide), rfl⟩, columnText, _,
      ⟨isColumn.not_mem (by decide), rfl⟩, lineAgain, _,
      ⟨isAgain.not_mem (by decide), rfl⟩, endText, _,
      ⟨isEnd.not_mem (by decide), rfl⟩, line, isLine, column, isColumn, line,
      isAgain, endColumn, isEnd, if_pos rfl⟩

/-- What a detail shows, if the text is one. -/
def readDetail? (text : String) : Option Shown := do
  let text ← text.toList.dropPrefix? [' ', ' ']
  let ((line, column, endColumn), text) ← readPosition? text
  let text ← text.dropPrefix? [' ']
  let (label, text) ← cut? ' ' text
  let severity ← severity? label
  let headline ← text.dropPrefix? [' ']
  return ⟨line, column, endColumn, severity, String.ofList headline⟩

theorem readDetail?_eq_some_iff (text : String) (shown : Shown) :
    readDetail? text = some shown ↔ IsDetail text shown := by
  simp only [readDetail?, bind, Option.bind_eq_some_iff, Prod.exists,
    List.dropPrefix?_eq_some_iff, readPosition?_eq_some_iff,
    cut?_eq_some_iff, severity?_eq_some_iff, beq_iff_eq, pure,
    Option.some.injEq]
  constructor
  · rintro ⟨_, ⟨_, front, rfl⟩, line, column, endColumn, _,
      ⟨lineText, columnText, lineAgain, endText, isLine, isColumn, isAgain,
        isEnd, rfl⟩, _, ⟨_, rfl, rfl⟩, _, _, ⟨_, rfl⟩, severity, rfl,
      headline, ⟨_, rfl, rfl⟩, rfl⟩
    refine ⟨lineText, columnText, lineAgain, endText, isLine, isColumn,
      isAgain, isEnd, ?_⟩
    simpa using front
  · rintro ⟨lineText, columnText, lineAgain, endText, isLine, isColumn,
      isAgain, isEnd, whole⟩
    refine ⟨_, ⟨_, whole, rfl⟩, shown.line, shown.column, shown.endColumn, _,
      ⟨lineText, columnText, lineAgain, endText, isLine, isColumn, isAgain,
        isEnd, rfl⟩, _, ⟨_, rfl, rfl⟩, _, _,
      ⟨not_mem_label shown.severity, rfl⟩, shown.severity, rfl,
      shown.headline.toList, ⟨_, rfl, rfl⟩, ?_⟩
    rw [String.ofList_toList]

/-- A text is the detail of one thing at most. -/
theorem IsDetail.unique {text : String} {left right : Shown}
    (isLeft : IsDetail text left) (isRight : IsDetail text right) :
    left = right := by
  have readLeft := (readDetail?_eq_some_iff text left).mpr isLeft
  have readRight := (readDetail?_eq_some_iff text right).mpr isRight
  exact Option.some.inj (readLeft.symm.trans readRight)

theorem isDetail_detail (diagnostic : Diagnostic) :
    IsDetail (detail false diagnostic).text diagnostic.shown := by
  refine ⟨_, _, _, _, isNumeral_toDigits diagnostic.line.toNat,
    isNumeral_toDigits diagnostic.column.toNat,
    isNumeral_toDigits diagnostic.line.toNat,
    isNumeral_toDigits diagnostic.endColumn, ?_⟩
  simp [detail, Diagnostic.shown, Diagnostic.headline, Text.firstLine]

/-- The detail of a diagnostic is the detail of what is shown of it and of
nothing else. -/
theorem isDetail_detail_iff (diagnostic : Diagnostic) (shown : Shown) :
    IsDetail (detail false diagnostic).text shown ↔
      shown = diagnostic.shown := by
  constructor
  · exact fun isDetail => isDetail.unique (isDetail_detail diagnostic)
  · rintro rfl
    exact isDetail_detail diagnostic

/-! ## Written blocks -/

/-- Lines as they are written, each with a line feed behind it. -/
def written (lines : List String) : List Char :=
  lines.flatMap fun line => line.toList ++ ['\n']

theorem splitAt_written {lines : List String}
    (oneLine : ∀ line ∈ lines, '\n' ∉ line.toList) :
    Text.splitAt '\n' (written lines) = lines.map String.toList ++ [[]] := by
  induction lines with
  | nil => rfl
  | cons line rest inductionHypothesis =>
      rw [List.forall_mem_cons] at oneLine
      have shape : written (line :: rest) =
          line.toList ++ '\n' :: written rest := by
        simp [written]
      rw [shape, Text.splitAt_append, Text.splitAt_of_not_mem oneLine.1,
        inductionHypothesis oneLine.2]
      rfl

theorem lineFeed_not_mem_detail (diagnostic : Diagnostic) :
    '\n' ∉ (detail false diagnostic).text.toList := by
  have noDigit := not_mem_toDigits '\n' (by decide)
  have label : '\n' ∉ diagnostic.severity.label.toList := by
    cases diagnostic.severity <;> decide
  have headline : '\n' ∉ diagnostic.headline.toList := by
    intro member
    rw [Diagnostic.headline, Text.firstLine, String.toList_ofList] at member
    simpa using List.mem_takeWhile_imp member
  simp [detail, noDigit, label, headline]

theorem linesOn_errors_detailedBlock (title : String)
    (lines : List String) :
    Block.linesOn .errors (detailedBlock title lines) = title :: lines := by
  have behind := details_detailedBlock title lines
  rw [Block.details, detailedBlock, List.drop_one, List.tail_cons] at behind
  rw [detailedBlock, ← List.singleton_append, Block.linesOn_append, behind]
  rfl

theorem detailedBlock_injective {title : String} {left right : List String}
    (equal : detailedBlock title left = detailedBlock title right) :
    left = right := by
  have sameDetails := congrArg Block.details equal
  rwa [details_detailedBlock, details_detailedBlock] at sameDetails

/-! ## Blocks of one path -/

theorem column_le_endColumn_shown (diagnostic : Diagnostic) :
    diagnostic.shown.column ≤ diagnostic.shown.endColumn :=
  diagnostic.column_le_endColumn

/-- A detail holds nothing but what is shown. -/
theorem detail_text_congr {left right : Diagnostic}
    (sameShown : left.shown = right.shown) :
    (detail false left).text = (detail false right).text := by
  have text : ∀ diagnostic : Diagnostic, (detail false diagnostic).text =
      "  " ++ toString diagnostic.shown.line ++ ":" ++
        toString diagnostic.shown.column ++ "-" ++
        toString diagnostic.shown.line ++ ":" ++
        toString diagnostic.shown.endColumn ++ "  " ++
        diagnostic.shown.severity.label ++ "  " ++
        diagnostic.shown.headline :=
    fun _ => rfl
  rw [text, text, sameShown]

theorem map_detail_text_eq_iff (left right : List Diagnostic) :
    left.map (fun diagnostic => (detail false diagnostic).text) =
        right.map (fun diagnostic => (detail false diagnostic).text) ↔
      left.map Diagnostic.shown = right.map Diagnostic.shown := by
  induction left generalizing right with
  | nil => cases right <;> simp
  | cons head tail inductionHypothesis =>
      cases right with
      | nil => simp
      | cons other others =>
          have sameHead : (detail false head).text =
              (detail false other).text ↔ head.shown = other.shown := by
            refine ⟨fun sameText => ?_, detail_text_congr⟩
            apply (isDetail_detail head).unique
            rw [sameText]
            exact isDetail_detail other
          simp only [List.map_cons, List.cons.injEq, sameHead,
            inductionHypothesis others]

theorem diagnosticsBlock_ne_cleanBlock {diagnostics : List Diagnostic}
    (filled : diagnostics ≠ []) (path : String) :
    diagnosticsBlock false path diagnostics ≠ cleanBlock false path := by
  intro equal
  have lengths := congrArg List.length equal
  rw [length_diagnosticsBlock filled] at lengths
  simp [cleanBlock] at lengths

/-- Two lists have the same block exactly if the same is shown of them. -/
theorem diagnosticsBlock_eq_iff (path : String)
    (left right : List Diagnostic) :
    diagnosticsBlock false path left = diagnosticsBlock false path right ↔
      left.map Diagnostic.shown = right.map Diagnostic.shown := by
  have ofNone : diagnosticsBlock false path [] = cleanBlock false path := rfl
  by_cases leftEmpty : left = []
  · subst leftEmpty
    by_cases rightEmpty : right = []
    · rw [rightEmpty]
      exact iff_of_true rfl rfl
    · have differ := (diagnosticsBlock_ne_cleanBlock rightEmpty path).symm
      rw [ofNone]
      exact iff_of_false differ (by simpa using Ne.symm rightEmpty)
  · by_cases rightEmpty : right = []
    · subst rightEmpty
      have differ := diagnosticsBlock_ne_cleanBlock leftEmpty path
      rw [ofNone]
      exact iff_of_false differ (by simpa using leftEmpty)
    · rw [diagnosticsBlock_eq leftEmpty, diagnosticsBlock_eq rightEmpty]
      constructor
      · intro sameBlock
        have sameTexts := detailedBlock_injective sameBlock
        rw [map_detail_text_eq_iff, List.map_reverse, List.map_reverse,
          List.reverse_inj] at sameTexts
        exact sameTexts
      · intro sameShown
        have sameTexts := (map_detail_text_eq_iff left.reverse
          right.reverse).mpr (by rw [List.map_reverse, List.map_reverse,
            sameShown])
        rw [sameTexts]

theorem not_isDetail_missingDetail (shown : Shown) :
    ¬IsDetail (missingDetail false).text shown := by
  rw [← readDetail?_eq_some_iff]
  have unreadable : readDetail? (missingDetail false).text = none := by
    decide
  simp [unreadable]

theorem diagnosticsBlock_ne_missingBlock {diagnostics : List Diagnostic}
    (filled : diagnostics ≠ []) (path : String) :
    diagnosticsBlock false path diagnostics ≠ missingBlock false path := by
  rw [diagnosticsBlock_eq filled, missingBlock_eq]
  intro equal
  have sameTexts := detailedBlock_injective equal
  obtain ⟨diagnostic, _, sameText⟩ := List.mem_map.mp
    (sameTexts ▸ List.mem_cons_self)
  exact not_isDetail_missingDetail _ (sameText ▸ isDetail_detail diagnostic)

/-- No other outcome of a path has the block of a list of diagnostics. -/
theorem diagnosticsBlock_ne_outcomeBlock {diagnostics : List Diagnostic}
    (filled : diagnostics ≠ []) (path : String) (allowed : List String)
    {outcome : Outcome} (other : ∀ found, outcome ≠ .linted found) :
    diagnosticsBlock false path diagnostics ≠
      outcomeBlock false allowed path outcome := by
  cases outcome with
  | missing => exact diagnosticsBlock_ne_missingBlock filled path
  | skipped extension =>
      exact diagnosticsBlock_ne_skippedBlock false allowed diagnostics path
        path extension
  | clean => exact diagnosticsBlock_ne_cleanBlock filled path
  | linted found => exact absurd rfl (other found)
  | passedOver failure =>
      intro equal
      have lengths := congrArg List.length equal
      rw [length_diagnosticsBlock filled] at lengths
      simp [outcomeBlock] at lengths

/-- The written block of a path with diagnostics gives back the path and, last
first, what is shown of each diagnostic.  Blocks of the path differ as soon as
something else is shown, and from those of all other outcomes. -/
theorem diagnosticsBlock_reads_back {path : String}
    (oneLine : '\n' ∉ path.toList) {diagnostics : List Diagnostic}
    (filled : diagnostics ≠ []) :
    let block := diagnosticsBlock false path diagnostics
    (∃ details : List String,
      Text.splitAt '\n' (written (Block.linesOn .errors block)) =
        (path :: details).map String.toList ++ [[]] ∧
      List.Forall₂
        (fun text diagnostic =>
          ∀ shown, IsDetail text shown ↔ shown = Diagnostic.shown diagnostic)
        details diagnostics.reverse) ∧
    (∀ diagnostic ∈ diagnostics,
      diagnostic.shown.column ≤ diagnostic.shown.endColumn) ∧
    (∀ others, diagnosticsBlock false path others = block ↔
      others.map Diagnostic.shown = diagnostics.map Diagnostic.shown) ∧
    ∀ allowed outcome, (∀ found, outcome ≠ .linted found) →
      block ≠ outcomeBlock false allowed path outcome := by
  intro block
  refine ⟨⟨diagnostics.reverse.map
      fun diagnostic => (detail false diagnostic).text, ?_, ?_⟩,
    fun diagnostic _ => column_le_endColumn_shown diagnostic,
    fun others => diagnosticsBlock_eq_iff path others diagnostics,
    fun allowed _ other =>
      diagnosticsBlock_ne_outcomeBlock filled path allowed other⟩
  · have lines : Block.linesOn .errors block =
        path :: diagnostics.reverse.map
          fun diagnostic => (detail false diagnostic).text := by
      rw [← linesOn_errors_detailedBlock, ← diagnosticsBlock_eq filled]
    rw [lines, splitAt_written]
    rw [List.forall_mem_cons]
    refine ⟨oneLine, ?_⟩
    simp only [List.mem_map, forall_exists_index, and_imp]
    rintro _ diagnostic _ rfl
    exact lineFeed_not_mem_detail diagnostic
  · rw [List.forall₂_map_left_iff, List.forall₂_same]
    exact fun diagnostic _ => isDetail_detail_iff diagnostic

/-- Two diagnostics, of which one reaches beyond the greatest column and has a
message of several lines that looks like a detail itself. -/
theorem diagnosticsBlock_reads_back_of_two :
    let path := "layout/theme.liquid"
    let near : Diagnostic := ⟨1, 2, 3, "unknown tag", .warning⟩
    let far : Diagnostic :=
      ⟨4, 4294967290, 10, "  1:2-1:5  warning  unknown tag\nat line 4",
        .error⟩
    near.shown = ⟨1, 2, 5, .warning, "unknown tag"⟩ ∧
      far.shown = ⟨4, 4294967290, 4294967295, .error,
        "  1:2-1:5  warning  unknown tag"⟩ ∧
      ∃ details : List String,
        Text.splitAt '\n' (written (Block.linesOn .errors
          (diagnosticsBlock false path [near, far]))) =
            (path :: details).map String.toList ++ [[]] ∧
        List.Forall₂
          (fun text shown => ∀ other, IsDetail text other ↔ other = shown)
          details [far.shown, near.shown] := by
  intro path near far
  have oneLine : '\n' ∉ path.toList := by decide
  obtain ⟨⟨details, split, readings⟩, _⟩ :=
    diagnosticsBlock_reads_back oneLine (List.cons_ne_nil near [far])
  have lastFirst : [far.shown, near.shown] =
      [near, far].reverse.map Diagnostic.shown :=
    rfl
  refine ⟨by decide, by decide, details, split, ?_⟩
  rw [lastFirst, List.forall₂_map_right_iff]
  exact readings

end Report

end TemplateLint
