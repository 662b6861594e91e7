import TemplateLint.Proofs.Report.Reading
import TemplateLint.Proofs.Report.SummaryBlock
import TemplateLint.Proofs.Summary

/-!
# A plain report and its counts

A report and a summary are made of the same outcomes on different ways.  What
can be counted in the blocks of the report is what the summary says: details
by their labels, headers, the empty lines below details, and the two notices
about files without details.  Only files whose failure is passed over count
without being reported.
-/

namespace TemplateLint.Report

namespace Block

/-- The header of a block is a line for errors that stands at its front. -/
def headers (block : Block) : List String :=
  linesOn .errors (block.take 1)

/-- The details of a block are its lines for errors behind the first line. -/
def details (block : Block) : List String :=
  linesOn .errors (block.drop 1)

/-- The block is one line of output, of which the text tells something. -/
def isNotice (tells : String → Bool) : Block → Bool
  | [line] => line.stream == .output && tells line.text
  | _ => false

end Block

/-- The words stand somewhere in a text. -/
def mentions (words : List Char) : List Char → Bool
  | [] => words.isEmpty
  | first :: rest =>
      words.isPrefixOf (first :: rest) || mentions words rest

/-- The text tells that a file is not linted. -/
def tellsSkipped (text : String) : Bool :=
  mentions ": not scanning ".toList text.toList &&
    lastCharacter? text == some ')'

/-- The text tells that nothing was found in a file. -/
def tellsClean (text : String) : Bool :=
  ": no issues found".toList.isSuffixOf text.toList

/-- The counts of a summary are those of some blocks, and of some files more
that are clean without being reported. -/
structure Agrees (summary : Summary) (blocks : List Block)
    (unreported : Nat) : Prop where
  errors_eq :
    summary.errors = (blocks.flatMap Block.details).countP
      (fun text => detailLabel text == "error")
  warnings_eq :
    summary.warnings = (blocks.flatMap Block.details).countP
      (fun text => detailLabel text == "warning")
  headers_eq :
    summary.missing + summary.withDiagnostics =
      (blocks.flatMap Block.headers).length
  emptyLines_eq :
    summary.missing + summary.withDiagnostics =
      (blocks.flatMap (Block.linesOn .output)).count ""
  skipped_eq : summary.skipped = blocks.countP (Block.isNotice tellsSkipped)
  clean_eq :
    summary.clean =
      blocks.countP (Block.isNotice tellsClean) + unreported

/-! ## Parts of a report -/

theorem agrees_nil : Agrees Summary.empty [] 0 := by
  constructor <;> rfl

theorem Agrees.append {left right : Summary}
    {leftBlocks rightBlocks : List Block} {leftMore rightMore : Nat}
    (leftAgrees : Agrees left leftBlocks leftMore)
    (rightAgrees : Agrees right rightBlocks rightMore) :
    Agrees (left.merge right) (leftBlocks ++ rightBlocks)
      (leftMore + rightMore) := by
  constructor
  case errors_eq =>
    rw [List.flatMap_append, List.countP_append, ← leftAgrees.errors_eq,
      ← rightAgrees.errors_eq]
    rfl
  case warnings_eq =>
    rw [List.flatMap_append, List.countP_append, ← leftAgrees.warnings_eq,
      ← rightAgrees.warnings_eq]
    rfl
  case headers_eq =>
    rw [List.flatMap_append, List.length_append, ← leftAgrees.headers_eq,
      ← rightAgrees.headers_eq]
    simp only [Summary.merge]
    omega
  case emptyLines_eq =>
    rw [List.flatMap_append, List.count_append, ← leftAgrees.emptyLines_eq,
      ← rightAgrees.emptyLines_eq]
    simp only [Summary.merge]
    omega
  case skipped_eq =>
    rw [List.countP_append, ← leftAgrees.skipped_eq,
      ← rightAgrees.skipped_eq]
    rfl
  case clean_eq =>
    have leftClean := leftAgrees.clean_eq
    have rightClean := rightAgrees.clean_eq
    rw [List.countP_append]
    simp only [Summary.merge]
    omega

/-! ## Blocks with details -/

/-- A block that lists something about a path. -/
def detailedBlock (title : String) (lines : List String) : Block :=
  ⟨.errors, title⟩ :: (lines.map (Line.mk .errors) ++ [separator])

theorem missingBlock_eq (path : String) :
    missingBlock false path =
      detailedBlock path [(missingDetail false).text] :=
  rfl

theorem diagnosticsBlock_eq {diagnostics : List Diagnostic}
    (filled : diagnostics ≠ []) (path : String) :
    diagnosticsBlock false path diagnostics =
      detailedBlock path (diagnostics.reverse.map
        fun diagnostic => (detail false diagnostic).text) := by
  have notEmpty : diagnostics.isEmpty = false := by simpa using filled
  rw [diagnosticsBlock, notEmpty, detailedBlock, List.map_map]
  rfl

theorem details_detailedBlock (title : String) (lines : List String) :
    Block.details (detailedBlock title lines) = lines := by
  have onErrors :
      Block.linesOn .errors (lines.map (Line.mk .errors)) = lines := by
    induction lines with
    | nil => rfl
    | cons line rest inductionHypothesis =>
        have behind := congrArg (line :: ·) inductionHypothesis
        simpa [Block.linesOn] using behind
  rw [Block.details, detailedBlock, List.drop_one, List.tail_cons,
    Block.linesOn_append, onErrors]
  exact List.append_nil lines

theorem linesOn_output_detailedBlock (title : String)
    (lines : List String) :
    Block.linesOn .output (detailedBlock title lines) = [""] := by
  have noneOnOutput :
      Block.linesOn .output (lines.map (Line.mk .errors)) = [] := by
    simp [Block.linesOn, List.filter_eq_nil_iff]
  have split : detailedBlock title lines =
      [⟨.errors, title⟩] ++ (lines.map (Line.mk .errors) ++ [separator]) :=
    rfl
  rw [split, Block.linesOn_append, Block.linesOn_append, noneOnOutput]
  rfl

theorem isNotice_detailedBlock (tells : String → Bool) (title : String)
    (lines : List String) :
    Block.isNotice tells (detailedBlock title lines) = false := by
  cases lines <;> rfl

/-- A block with details is for one path that is missing or has diagnostics;
the details tell the errors and the warnings. -/
theorem agrees_detailedBlock {summary : Summary} {title : String}
    {lines : List String}
    (errors : summary.errors =
      lines.countP (fun text => detailLabel text == "error"))
    (warnings : summary.warnings =
      lines.countP (fun text => detailLabel text == "warning"))
    (onePath : summary.missing + summary.withDiagnostics = 1)
    (noneSkipped : summary.skipped = 0) (noneClean : summary.clean = 0) :
    Agrees summary [detailedBlock title lines] 0 := by
  constructor
  case errors_eq =>
    rw [List.flatMap_singleton, details_detailedBlock]
    exact errors
  case warnings_eq =>
    rw [List.flatMap_singleton, details_detailedBlock]
    exact warnings
  case headers_eq => exact onePath
  case emptyLines_eq =>
    rw [List.flatMap_singleton, linesOn_output_detailedBlock]
    exact onePath
  case skipped_eq =>
    rw [List.countP_singleton, isNotice_detailedBlock]
    exact noneSkipped
  case clean_eq =>
    rw [List.countP_singleton, isNotice_detailedBlock]
    exact noneClean

/-! ## Notices -/

/-- A notice is one line of output, for a path without details. -/
theorem agrees_notice {summary : Summary} {text : String}
    (filled : text ≠ "")
    (noMessages : summary.errors = 0 ∧ summary.warnings = 0)
    (noDetails : summary.missing + summary.withDiagnostics = 0)
    (skipped : summary.skipped = if tellsSkipped text then 1 else 0)
    (clean : summary.clean = if tellsClean text then 1 else 0) :
    Agrees summary [[⟨.output, text⟩]] 0 := by
  constructor
  case errors_eq => exact noMessages.1
  case warnings_eq => exact noMessages.2
  case headers_eq => exact noDetails
  case emptyLines_eq =>
    have lines :
        Block.linesOn .output [⟨.output, text⟩] = [text] := rfl
    rw [List.flatMap_singleton, lines, List.count_singleton, noDetails]
    simp [filled]
  case skipped_eq => simpa [Block.isNotice] using skipped
  case clean_eq => simpa [Block.isNotice] using clean

theorem mentions_append (words before after : List Char) :
    mentions words (before ++ (words ++ after)) = true := by
  induction before with
  | cons first rest inductionHypothesis =>
      rw [List.cons_append, mentions, inductionHypothesis]
      exact Bool.or_true _
  | nil =>
      have atFront : words.isPrefixOf (words ++ after) = true :=
        List.isPrefixOf_iff_prefix.mpr (List.prefix_append words after)
      cases text : words ++ after with
      | nil =>
          have noWords := (List.append_eq_nil_iff.mp text).1
          simp [mentions, noWords]
      | cons first rest =>
          rw [text] at atFront
          simp [mentions, atFront]

theorem tellsSkipped_skipped (allowed : List String)
    (path extension : String) :
    tellsSkipped
        (path ++ ": not scanning " ++ skipReason extension allowed) =
      true := by
  have last := lastCharacter?_append
    (lastCharacter?_skipReason extension allowed)
    (path ++ ": not scanning ")
  rw [tellsSkipped, last, String.toList_append, String.toList_append,
    List.append_assoc, mentions_append]
  rfl

theorem tellsClean_skipped (allowed : List String)
    (path extension : String) :
    tellsClean
        (path ++ ": not scanning " ++ skipReason extension allowed) =
      false := by
  rw [tellsClean, Bool.eq_false_iff]
  intro tells
  obtain ⟨before, text⟩ := List.isSuffixOf_iff_suffix.mp tells
  have last := lastCharacter?_append
    (lastCharacter?_skipReason extension allowed)
    (path ++ ": not scanning ")
  rw [lastCharacter?, ← text, List.getLast?_append] at last
  simp at last

theorem tellsSkipped_clean (path : String) :
    tellsSkipped (path ++ ": no issues found") = false := by
  have last := lastCharacter?_clean false path
  rw [paint_false] at last
  rw [tellsSkipped, last]
  exact Bool.and_false _

theorem tellsClean_clean (path : String) :
    tellsClean (path ++ ": no issues found") = true := by
  rw [tellsClean, String.toList_append]
  exact List.isSuffixOf_iff_suffix.mpr (List.suffix_append _ _)

/-! ## Outcomes -/

theorem agrees_missing (path : String) :
    Agrees (Summary.ofOutcome .missing) [missingBlock false path] 0 := by
  rw [missingBlock_eq]
  apply agrees_detailedBlock <;>
    simp [detailLabel_missingDetail, Summary.ofOutcome, Summary.record,
      Summary.recordMissing, Summary.empty]

theorem agrees_skipped (allowed : List String) (path extension : String) :
    Agrees (Summary.ofOutcome (.skipped extension))
      [skippedBlock false allowed path extension] 0 := by
  refine agrees_notice ?_ ⟨rfl, rfl⟩ rfl ?_ ?_
  · simp [String.append_eq_empty_iff]
  · rw [paint_false, paint_false, tellsSkipped_skipped]
    rfl
  · rw [paint_false, paint_false, tellsClean_skipped]
    rfl

theorem agrees_clean (path : String) :
    Agrees (Summary.ofOutcome .clean) [cleanBlock false path] 0 := by
  refine agrees_notice ?_ ⟨rfl, rfl⟩ rfl ?_ ?_
  · simp [String.append_eq_empty_iff]
  · rw [paint_false, tellsSkipped_clean]
    rfl
  · rw [paint_false, tellsClean_clean]
    rfl

theorem countP_detailLabel (severity : Severity)
    (diagnostics : List Diagnostic) :
    (diagnostics.reverse.map
        fun diagnostic => (detail false diagnostic).text).countP
        (fun text => detailLabel text == severity.label) =
      Summary.countSeverity severity diagnostics := by
  rw [List.countP_map, List.countP_reverse, Summary.countSeverity]
  refine List.countP_congr fun diagnostic _ => ?_
  simp only [Function.comp_apply, detailLabel_detail, beq_iff_eq]
  exact ⟨Severity.label_injective, congrArg Severity.label⟩

theorem agrees_linted {diagnostics : List Diagnostic}
    (filled : diagnostics ≠ []) (path : String) :
    Agrees (Summary.ofOutcome (.linted diagnostics))
      [diagnosticsBlock false path diagnostics] 0 := by
  have notEmpty : diagnostics.isEmpty = false := by simpa using filled
  have errors := countP_detailLabel .error diagnostics
  have warnings := countP_detailLabel .warning diagnostics
  rw [diagnosticsBlock_eq filled]
  apply agrees_detailedBlock
  case errors =>
    refine Eq.trans ?_ errors.symm
    simp [Summary.ofOutcome, Summary.record, Summary.recordDiagnostics,
      notEmpty, Summary.empty]
  case warnings =>
    refine Eq.trans ?_ warnings.symm
    simp [Summary.ofOutcome, Summary.record, Summary.recordDiagnostics,
      notEmpty, Summary.empty]
  all_goals
    simp [Summary.ofOutcome, Summary.record, Summary.recordDiagnostics,
      notEmpty, Summary.empty]

/-- A file whose failure is passed over counts as clean without a block. -/
theorem agrees_passedOver (failure : LintFailure) :
    Agrees (Summary.ofOutcome (.passedOver failure)) [] 1 := by
  constructor <;> rfl

end TemplateLint.Report
