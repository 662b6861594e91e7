import TemplateLint.Proofs.Report.Reading

/-!
# Reports without their colors

Colors only decorate: once the style sequences are erased from the lines of a
colored block, the plain block is left, line for line and stream for stream.
The texts of the block must not hold escapes of their own.
-/

namespace TemplateLint.Report

/-! ## Erasing styles -/

/-- The character that begins a style sequence. -/
def escape : Char := '\x1b'

/-- The parameters of a style are digits with semicolons between them. -/
def isParameter (character : Char) : Bool :=
  character.isDigit || character == ';'

/-- The length of the style sequence at the front of a text, if there is one:
an escape, a bracket, parameters and the letter `m`. -/
def sequenceLength? : List Char → Option Nat
  | '\x1b' :: '[' :: rest =>
      match rest.dropWhile isParameter with
      | 'm' :: _ => some ((rest.takeWhile isParameter).length + 3)
      | _ => none
  | _ => none

/-- The characters of a text outside of style sequences.  Those at the front
that belong to a sequence which has been recognised are counted. -/
def eraseFrom : Nat → List Char → List Char
  | _, [] => []
  | counted + 1, _ :: tail => eraseFrom counted tail
  | 0, head :: tail =>
      match sequenceLength? (head :: tail) with
      | some length => eraseFrom (length - 1) tail
      | none => head :: eraseFrom 0 tail

/-- A text without its style sequences. -/
def eraseStyles (text : String) : String :=
  String.ofList (eraseFrom 0 text.toList)

/-- A line without the style sequences of its text. -/
def Line.withoutStyles (line : Line) : Line :=
  { line with text := eraseStyles line.text }

theorem sequenceLength?_of_ne {head : Char} (other : head ≠ escape)
    (tail : List Char) : sequenceLength? (head :: tail) = none := by
  unfold sequenceLength?
  split
  · next shape => exact absurd (List.cons.inj shape).1 other
  · rfl

theorem eraseFrom_counted (counted rest : List Char) :
    eraseFrom counted.length (counted ++ rest) = eraseFrom 0 rest := by
  induction counted with
  | nil => rfl
  | cons head tail inductionHypothesis =>
      exact inductionHypothesis

/-- The sequence that turns a style on, or all styles off, is erased. -/
theorem eraseFrom_sequence {parameters : List Char}
    (allParameters : parameters.all isParameter) (rest : List Char) :
    eraseFrom 0 ('\x1b' :: '[' :: (parameters ++ 'm' :: rest)) =
      eraseFrom 0 rest := by
  have isParameters : ∀ character ∈ parameters,
      isParameter character = true := List.all_eq_true.mp allParameters
  have length : sequenceLength?
      ('\x1b' :: '[' :: (parameters ++ 'm' :: rest)) =
        some (parameters.length + 3) := by
    have letter : isParameter 'm' = false := by decide
    simp [sequenceLength?, List.takeWhile_append_of_pos isParameters,
      List.dropWhile_append_of_pos isParameters, letter]
  have counted := eraseFrom_counted ('[' :: (parameters ++ ['m'])) rest
  rw [eraseFrom, length]
  simpa using counted

/-! ## Colored and plain texts -/

/-- Erasing the styles of `colored` leaves `plain`, whatever text follows. -/
def ErasesTo (colored plain : String) : Prop :=
  ∀ rest, eraseFrom 0 (colored.toList ++ rest) =
    plain.toList ++ eraseFrom 0 rest

namespace ErasesTo

theorem eraseStyles_eq {colored plain : String}
    (erases : ErasesTo colored plain) : eraseStyles colored = plain := by
  have alone := erases []
  rw [List.append_nil, eraseFrom, List.append_nil] at alone
  rw [eraseStyles, alone, String.ofList_toList]

theorem append {colored plain others rest : String}
    (erases : ErasesTo colored plain) (erasesRest : ErasesTo others rest) :
    ErasesTo (colored ++ others) (plain ++ rest) := by
  intro after
  rw [String.toList_append, String.toList_append, List.append_assoc, erases,
    erasesRest, List.append_assoc]

/-- A text without escapes has no styles. -/
theorem refl {text : String} (unescaped : escape ∉ text.toList) :
    ErasesTo text text := by
  intro rest
  generalize text.toList = characters at unescaped
  induction characters with
  | nil => rfl
  | cons head tail inductionHypothesis =>
      simp only [List.mem_cons, not_or] at unescaped
      have other : head ≠ escape := Ne.symm unescaped.1
      rw [List.cons_append, eraseFrom, sequenceLength?_of_ne other,
        inductionHypothesis unescaped.2, List.cons_append]

end ErasesTo

theorem reopen_of_unescaped (opening : List Char) {text : List Char}
    (unescaped : escape ∉ text) : reopen opening text = text := by
  induction text with
  | nil => rfl
  | cons head tail inductionHypothesis =>
      simp only [List.mem_cons, not_or] at unescaped
      have other : head ≠ '\x1b' := Ne.symm unescaped.1
      rw [reopen, inductionHypothesis unescaped.2]
      intro _ isEscape
      exact absurd isEscape other

/-- What is painted has the styles around it only. -/
theorem erasesTo_paint (style : Style) {text : String}
    (unescaped : escape ∉ text.toList) :
    ErasesTo (paint true style text) text := by
  intro rest
  have opens : ∀ after, eraseFrom 0 (style.opening ++ after) =
      eraseFrom 0 after := by
    intro after
    have erased := eraseFrom_sequence
      (show style.parameters.all isParameter by cases style <;> decide) after
    simpa [Style.opening] using erased
  have closes : eraseFrom 0 (closing ++ rest) = eraseFrom 0 rest :=
    eraseFrom_sequence (show ['0'].all isParameter by decide) rest
  have inside := ErasesTo.refl unescaped (closing ++ rest)
  simp only [paint, if_true, String.toList_ofList,
    reopen_of_unescaped _ unescaped, List.append_assoc]
  rw [opens, inside, closes]

/-! ## Texts without escapes -/

theorem escape_not_mem_toString (number : Nat) :
    escape ∉ (toString number).toList := by
  simpa using not_mem_toDigits escape (by decide) number

theorem escape_not_mem_headline {diagnostic : Diagnostic}
    (unescaped : escape ∉ diagnostic.message.toList) :
    escape ∉ diagnostic.headline.toList := by
  intro member
  rw [Diagnostic.headline, Text.firstLine, String.toList_ofList] at member
  exact unescaped (List.takeWhile_prefix _ |>.subset member)

theorem not_mem_intercalate {character : Char} {separator : List Char}
    {parts : List (List Char)} (solid : character ∉ separator)
    (absent : ∀ part ∈ parts, character ∉ part) :
    character ∉ separator.intercalate parts := by
  induction parts with
  | nil => simp [List.intercalate]
  | cons part rest inductionHypothesis =>
      have inRest := inductionHypothesis fun other member =>
        absent other (List.mem_cons_of_mem _ member)
      have atHead := absent part List.mem_cons_self
      cases rest with
      | nil => simpa [List.intercalate] using atHead
      | cons next others =>
          rw [List.intercalate_cons_cons]
          simp only [List.mem_append, not_or]
          exact ⟨⟨atHead, solid⟩, inRest⟩

theorem escape_not_mem_skipReason {extension : String}
    {allowed : List String} (unescaped : escape ∉ extension.toList)
    (allUnescaped : ∀ text ∈ allowed, escape ∉ text.toList) :
    escape ∉ (skipReason extension allowed).toList := by
  have list : escape ∉ (", ".intercalate allowed).toList := by
    rw [String.toList_intercalate]
    refine not_mem_intercalate (by decide) ?_
    intro part member
    obtain ⟨text, isAllowed, rfl⟩ := List.mem_map.mp member
    exact allUnescaped text isAllowed
  have first : escape ∉ "(file extension \"".toList := by decide +kernel
  have middle : escape ∉ "\" does not match one of \"".toList := by
    decide +kernel
  have last : escape ∉ "\")".toList := by decide +kernel
  unfold skipReason
  repeat rw [String.toList_append]
  intro member
  repeat rw [List.mem_append] at member
  rcases member with (((inFirst | inExtension) | inMiddle) | inList) | inLast
  · exact first inFirst
  · exact unescaped inExtension
  · exact middle inMiddle
  · exact list inList
  · exact last inLast

/-! ## Lines -/

theorem withoutStyles_eq {stream : Stream} {colored plain : String}
    (erases : ErasesTo colored plain) :
    (Line.mk stream colored).withoutStyles = ⟨stream, plain⟩ := by
  rw [Line.withoutStyles, erases.eraseStyles_eq]

theorem header_withoutStyles {path : String}
    (unescaped : escape ∉ path.toList) :
    (header true path).withoutStyles = header false path :=
  withoutStyles_eq (erasesTo_paint .redUnderlined unescaped)

theorem separator_withoutStyles : separator.withoutStyles = separator := rfl

theorem missingDetail_withoutStyles :
    (missingDetail true).withoutStyles = missingDetail false := by
  decide

theorem detail_withoutStyles {diagnostic : Diagnostic}
    (unescaped : escape ∉ diagnostic.message.toList) :
    (detail true diagnostic).withoutStyles = detail false diagnostic := by
  have label : escape ∉ diagnostic.severity.label.toList := by
    cases diagnostic.severity <;> decide
  have numbers := escape_not_mem_toString
  apply withoutStyles_eq
  refine .append (.append (.append (.refl ?_) (erasesTo_paint .red label))
    (.refl (by decide))) (.refl (escape_not_mem_headline unescaped))
  simp only [String.toList_append, List.mem_append, not_or]
  exact ⟨⟨⟨⟨⟨⟨⟨⟨by decide, numbers _⟩, by decide⟩, numbers _⟩, by decide⟩,
    numbers _⟩, by decide⟩, numbers _⟩, by decide⟩

theorem cleanBlock_withoutStyles {path : String}
    (unescaped : escape ∉ path.toList) :
    (cleanBlock true path).map Line.withoutStyles =
      cleanBlock false path := by
  have erases := (erasesTo_paint .green unescaped).append
    (.refl (show escape ∉ ": no issues found".toList by decide))
  simp only [cleanBlock, List.map_cons, List.map_nil,
    withoutStyles_eq erases, paint_false]

theorem skippedBlock_withoutStyles {allowed : List String}
    {path extension : String} (unescaped : escape ∉ path.toList)
    (unescapedExtension : escape ∉ extension.toList)
    (allUnescaped : ∀ text ∈ allowed, escape ∉ text.toList) :
    (skippedBlock true allowed path extension).map Line.withoutStyles =
      skippedBlock false allowed path extension := by
  have reason := escape_not_mem_skipReason unescapedExtension allUnescaped
  have erases := ((erasesTo_paint .green unescaped).append
    (.refl (show escape ∉ ": not scanning ".toList by decide))).append
      (erasesTo_paint .dimmed reason)
  simp only [skippedBlock, List.map_cons, List.map_nil,
    withoutStyles_eq erases, paint_false]

theorem diagnosticsBlock_withoutStyles {path : String}
    {diagnostics : List Diagnostic} (unescaped : escape ∉ path.toList)
    (allUnescaped : ∀ diagnostic ∈ diagnostics,
      escape ∉ diagnostic.message.toList) :
    (diagnosticsBlock true path diagnostics).map Line.withoutStyles =
      diagnosticsBlock false path diagnostics := by
  by_cases empty : diagnostics = []
  · subst empty
    exact cleanBlock_withoutStyles unescaped
  · have details :
        (diagnostics.reverse.map (detail true)).map Line.withoutStyles =
          diagnostics.reverse.map (detail false) := by
      rw [List.map_map]
      refine List.map_congr_left fun diagnostic member => ?_
      exact detail_withoutStyles
        (allUnescaped diagnostic (List.mem_reverse.mp member))
    simp only [diagnosticsBlock, List.isEmpty_iff, empty, if_false,
      List.map_cons, List.map_append, List.map_nil, details,
      header_withoutStyles unescaped, separator_withoutStyles]

/-! ## Summaries -/

theorem errorsText_erasesTo (count : Nat) :
    ErasesTo (errorsText true count) (errorsText false count) := by
  have sign := erasesTo_paint .red (show escape ∉ "✘".toList by decide)
  have letters := not_mem_plural escape (by decide) count
  exact (((sign.append (.refl (by decide))).append
    (.refl (escape_not_mem_toString count))).append
      (.refl (by decide))).append (.refl letters)

theorem warningsText_erasesTo (count : Nat) :
    ErasesTo (warningsText true count) (warningsText false count) := by
  have sign := erasesTo_paint .yellow (show escape ∉ "⚠".toList by decide)
  have letters := not_mem_plural escape (by decide) count
  exact (((sign.append (.refl (by decide))).append
    (.refl (escape_not_mem_toString count))).append
      (.refl (by decide))).append (.refl letters)

theorem summaryLine_withoutStyles (kind : SummaryKind) :
    (summaryLine true kind).withoutStyles = summaryLine false kind := by
  cases kind with
  | noErrors => decide
  | errors count => exact withoutStyles_eq (errorsText_erasesTo count)
  | warnings count => exact withoutStyles_eq (warningsText_erasesTo count)
  | mixed errors warnings =>
      have total := ErasesTo.refl (escape_not_mem_toString (errors + warnings))
      exact withoutStyles_eq
        (((((total.append (.refl (by decide))).append
          (errorsText_erasesTo errors)).append (.refl (by decide))).append
            (warningsText_erasesTo warnings)).append (.refl (by decide)))

/-! ## Blocks -/

/-- The texts that the block of an outcome takes from it. -/
def outcomeTexts : Outcome → List String
  | .missing => []
  | .skipped extension => [extension]
  | .clean => []
  | .linted diagnostics => diagnostics.map Diagnostic.message
  | .passedOver _ => []

/-- Without its styles a colored block is the plain one: that of any outcome
whose texts, path and extensions hold no escapes, and that of any summary. -/
theorem blocks_withoutStyles {allowed : List String} {path : String}
    {outcome : Outcome}
    (unescaped : ∀ text ∈ path :: (outcomeTexts outcome ++ allowed),
      escape ∉ text.toList) :
    (outcomeBlock true allowed path outcome).map Line.withoutStyles =
        outcomeBlock false allowed path outcome ∧
      ∀ summary,
        (summaryBlock true summary).map Line.withoutStyles =
          summaryBlock false summary := by
  have inPath : escape ∉ path.toList := unescaped path List.mem_cons_self
  have inTexts : ∀ text ∈ outcomeTexts outcome, escape ∉ text.toList :=
    fun text member => unescaped text
      (List.mem_cons_of_mem _ (List.mem_append_left _ member))
  have inAllowed : ∀ text ∈ allowed, escape ∉ text.toList :=
    fun text member => unescaped text
      (List.mem_cons_of_mem _ (List.mem_append_right _ member))
  refine ⟨?_, fun summary =>
    List.singleton_inj.mpr (summaryLine_withoutStyles summary.kind)⟩
  cases outcome with
  | missing =>
      simp only [outcomeBlock, missingBlock, List.map_cons, List.map_nil,
        header_withoutStyles inPath, missingDetail_withoutStyles,
        separator_withoutStyles]
  | skipped extension =>
      exact skippedBlock_withoutStyles inPath
        (inTexts extension (List.mem_singleton_self _)) inAllowed
  | clean => exact cleanBlock_withoutStyles inPath
  | linted diagnostics =>
      refine diagnosticsBlock_withoutStyles inPath fun diagnostic member => ?_
      exact inTexts diagnostic.message (List.mem_map_of_mem member)
  | passedOver failure => rfl

/-- Two diagnostics, the later one with a bracket and digits in a message of
two lines. -/
theorem blocks_withoutStyles_of_two_diagnostics :
    let found : List Diagnostic :=
      [⟨1, 1, 3, "Unknown tag", .error⟩,
        ⟨5, 2, 1, "Unexpected [0m\nin output", .warning⟩]
    (outcomeBlock true ["md"] "page.md" (.linted found)).map
          Line.withoutStyles =
        [⟨.errors, "page.md"⟩,
          ⟨.errors, "  5:2-5:3  warning  Unexpected [0m"⟩,
          ⟨.errors, "  1:1-1:4  error  Unknown tag"⟩, ⟨.output, ""⟩] ∧
      outcomeBlock true ["md"] "page.md" (.linted found) ≠
        outcomeBlock false ["md"] "page.md" (.linted found) := by
  intro found
  have unescaped : ∀ text ∈ "page.md" ::
      (outcomeTexts (.linted found) ++ ["md"]),
      escape ∉ text.toList := by
    decide +kernel
  have plain := (blocks_withoutStyles unescaped).1
  refine ⟨plain.trans ?_, ?_⟩
  · decide +kernel
  · decide +kernel

end TemplateLint.Report
