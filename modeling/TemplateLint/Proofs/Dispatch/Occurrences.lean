import Mathlib.Data.List.Basic
import TemplateLint.Dispatch.Run
import TemplateLint.Proofs.FileTree.Discovery
import TemplateLint.Proofs.Path.Texts
import TemplateLint.Proofs.Report.SummaryBlock

/-!
# What inputs and replies come to

Every input stands for files that are linted, or for one path that is reported
at once, or, if no file is found in a directory, for nothing.  Every reply
gives its file an outcome unless it ends the run.
-/

namespace TemplateLint.Dispatch

open Report

/-! ## Inputs -/

/-- The files that an input asks to be linted: a file as itself, a directory
as the files that are found in it. -/
def lintedFiles (tree : FileTree) (input : String) : List Path :=
  match tree.resolve defaultExtensions input with
  | .missing => []
  | .file => if extensionOf input ∈ defaultExtensions then [input] else []
  | .directory paths => paths

/-- The outcome of an input that is reported at once: there is nothing, or a
file that is not linted. -/
def outcomeAtOnce? (tree : FileTree) (input : String) : Option Outcome :=
  match tree.resolve defaultExtensions input with
  | .missing => some .missing
  | .file =>
      if extensionOf input ∈ defaultExtensions then none
      else some (.skipped (extensionOf input))
  | .directory _ => none

/-- An input with the outcome that is reported at once. -/
def settledInput? (tree : FileTree) (input : String) :
    Option (Path × Outcome) :=
  (outcomeAtOnce? tree input).map (fun outcome => (input, outcome))

theorem itemOfFile_of_mem {allowed : List String} {path : Path}
    (linted : extensionOf path.shown ∈ allowed) :
    itemOfFile allowed path = .submitted path := by
  simp [itemOfFile, classify, linted]

/-- The files found in a directory are all linted. -/
theorem map_itemOfFile_of_directory {tree : FileTree}
    {allowed : List String} {paths : List Path} {input : Path}
    (resolved : tree.resolve allowed input = .directory paths) :
    paths.map (itemOfFile allowed) = paths.map Item.submitted :=
  List.map_congr_left fun _ member =>
    itemOfFile_of_mem (FileTree.extensionOf_mem_of_mem_directory resolved member)

theorem itemsOfInput_of_file {tree : FileTree} {allowed : List String}
    {input : String} (isFile : tree.resolve allowed input = .file) :
    itemsOfInput tree allowed input =
      if extensionOf input ∈ allowed then [.submitted input]
      else [.settled input (.skipped (extensionOf input))] := by
  rw [itemsOfInput, isFile]
  by_cases linted : extensionOf input ∈ allowed
  · simp [itemOfFile, classify, linted]
  · simp [itemOfFile, classify, linted]

theorem submitted_itemsOfInput (tree : FileTree) (input : String) :
    (itemsOfInput tree defaultExtensions input).filterMap
      Item.submitted? = lintedFiles tree input := by
  unfold lintedFiles
  cases resolved : tree.resolve defaultExtensions input with
  | missing => simp [itemsOfInput, resolved, Item.submitted?]
  | file =>
      rw [itemsOfInput_of_file resolved]
      by_cases linted : extensionOf input ∈ defaultExtensions
      · simp [linted, Item.submitted?]
      · simp [linted, Item.submitted?]
  | directory paths =>
      simp only [itemsOfInput, resolved, map_itemOfFile_of_directory resolved,
        List.filterMap_map]
      exact List.filterMap_some

theorem settled_itemsOfInput (tree : FileTree) (input : String) :
    (itemsOfInput tree defaultExtensions input).filterMap
      Item.settled? = (settledInput? tree input).toList := by
  unfold settledInput? outcomeAtOnce?
  cases resolved : tree.resolve defaultExtensions input with
  | missing => simp [itemsOfInput, resolved, Item.settled?]
  | file =>
      rw [itemsOfInput_of_file resolved]
      by_cases linted : extensionOf input ∈ defaultExtensions
      · simp [linted, Item.settled?]
      · simp [linted, Item.settled?]
  | directory paths =>
      simp only [itemsOfInput, resolved, map_itemOfFile_of_directory resolved,
        List.filterMap_map]
      exact List.filterMap_eq_nil_iff.mpr fun _ _ => rfl

/-- The submissions are the files that the inputs ask for, in order. -/
theorem submissions_itemsOf (tree : FileTree) (inputs : List String) :
    submissions (itemsOf tree defaultExtensions inputs) =
      inputs.flatMap (lintedFiles tree) := by
  simp only [submissions, itemsOf, List.filterMap_flatMap,
    submitted_itemsOfInput]

theorem settledAtOnce_itemsOf (tree : FileTree) (inputs : List String) :
    settledAtOnce (itemsOf tree defaultExtensions inputs) =
      inputs.filterMap (settledInput? tree) := by
  simp only [settledAtOnce, itemsOf, List.filterMap_flatMap,
    settled_itemsOfInput]
  exact (List.filterMap_eq_flatMap_toList _ inputs).symm

/-! ## Replies -/

namespace Reply

theorem toOutcome_eq_error_iff (path : Path) (reply : Reply)
    (failure : RunFailure) :
    reply.toOutcome path = .error failure ↔
      (∃ cause, reply = .failed cause ∧ cause.isSuppressed = false ∧
        failure = .dispatch path cause) ∨
      ∃ cause, reply = .lost cause ∧ failure = .taskLost cause := by
  cases reply with
  | diagnostics found => simp [toOutcome]
  | lost cause => simpa [toOutcome] using eq_comm
  | failed cause =>
      cases suppressed : cause.isSuppressed with
      | false => simpa [toOutcome, suppressed] using eq_comm
      | true => simp [toOutcome, suppressed]

theorem toOutcome_eq_ok_iff (path : Path) (reply : Reply)
    (outcome : Outcome) :
    reply.toOutcome path = .ok outcome ↔
      (∃ found, reply = .diagnostics found ∧
        outcome = Outcome.ofDiagnostics found) ∨
      (∃ cause, reply = .failed cause ∧ cause.isSuppressed = true ∧
        outcome = .passedOver cause) := by
  cases reply with
  | diagnostics found => simpa [toOutcome] using eq_comm
  | lost cause => simp [toOutcome]
  | failed cause =>
      cases suppressed : cause.isSuppressed with
      | false => simp [toOutcome, suppressed]
      | true => simpa [toOutcome, suppressed] using eq_comm

theorem endsRun_of_toOutcome_eq_error {path : Path} {reply : Reply}
    {failure : RunFailure}
    (fails : reply.toOutcome path = .error failure) :
    reply.endsRun = true := by
  rcases (toOutcome_eq_error_iff path reply failure).mp fails with
    ⟨cause, rfl, fatal, _⟩ | ⟨cause, rfl, _⟩
  · simp [endsRun, fatal]
  · rfl

theorem exists_toOutcome_eq_error {reply : Reply}
    (ends : reply.endsRun = true) (path : Path) :
    ∃ failure, reply.toOutcome path = .error failure := by
  cases reply with
  | diagnostics found => cases ends
  | lost cause => exact ⟨_, rfl⟩
  | failed cause =>
      have fatal : cause.isSuppressed = false := by
        simpa [endsRun] using ends
      exact ⟨.dispatch path cause, by simp [toOutcome, fatal]⟩

theorem endsRun_of_toOutcome_eq_ok {path : Path} {reply : Reply}
    {outcome : Outcome} (settles : reply.toOutcome path = .ok outcome) :
    reply.endsRun = false := by
  rcases (toOutcome_eq_ok_iff path reply outcome).mp settles with
    ⟨found, rfl, _⟩ | ⟨cause, rfl, suppressed, _⟩
  · rfl
  · simp [endsRun, suppressed]

theorem exists_toOutcome_eq_ok {reply : Reply}
    (continues : reply.endsRun = false) (path : Path) :
    ∃ outcome, reply.toOutcome path = .ok outcome := by
  cases reply with
  | diagnostics found => exact ⟨_, rfl⟩
  | lost cause => cases continues
  | failed cause =>
      have suppressed : cause.isSuppressed = true := by
        simpa [endsRun] using continues
      exact ⟨.passedOver cause, by simp [toOutcome, suppressed]⟩

end Reply

/-- A linted file with its outcome, unless its reply ends the run. -/
def settledFile? (engine : Engine) (path : Path) :
    Option (Path × Outcome) :=
  ((engine path).reply.toOutcome path).toOption.map
    (fun outcome => (path, outcome))

variable (engine : Engine)

theorem settledFile?_eq_some_iff (file path : Path) (outcome : Outcome) :
    settledFile? engine file = some (path, outcome) ↔
      file = path ∧ (engine file).reply.toOutcome file = .ok outcome := by
  unfold settledFile?
  cases (engine file).reply.toOutcome file with
  | error failure => simp [Except.toOption]
  | ok found => simp [Except.toOption]

/-- What is collected does not look beyond files that do not end the run. -/
theorem collect_append {before : List Path}
    (continues : ∀ path ∈ before, (engine path).reply.endsRun = false)
    (after : List Path) :
    collect engine (before ++ after) =
      (before.filterMap (settledFile? engine) ++ (collect engine after).1,
        (collect engine after).2) := by
  induction before with
  | nil => rfl
  | cons path rest inductionHypothesis =>
      have later := inductionHypothesis fun other member =>
        continues other (List.mem_cons_of_mem path member)
      obtain ⟨outcome, settles⟩ :=
        Reply.exists_toOutcome_eq_ok (continues path List.mem_cons_self) path
      have settled := (settledFile?_eq_some_iff engine path path outcome).mpr
        ⟨rfl, settles⟩
      rw [List.cons_append, collect, settles, later,
        List.filterMap_cons_some settled]
      rfl

theorem collect_of_continues {order : List Path}
    (continues : ∀ path ∈ order, (engine path).reply.endsRun = false) :
    collect engine order =
      (order.filterMap (settledFile? engine), none) := by
  have collected := collect_append engine continues []
  simpa [collect] using collected

theorem collect_append_of_error {before : List Path} {path : Path}
    {failure : RunFailure}
    (continues : ∀ earlier ∈ before,
      (engine earlier).reply.endsRun = false)
    (fails : (engine path).reply.toOutcome path = .error failure)
    (after : List Path) :
    collect engine (before ++ path :: after) =
      (before.filterMap (settledFile? engine), some failure) := by
  rw [collect_append engine continues, collect, fails]
  simp

/-! ## Blocks -/

/-- The block of an input that is reported at once. -/
def blockAtOnce? (color : Bool) (tree : FileTree) (input : String) :
    Option Block :=
  (outcomeAtOnce? tree input).map
    (outcomeBlock color defaultExtensions input)

/-- The block of a linted file.  Nothing is reported for a failure that is
passed over. -/
def blockOfFile? (color : Bool) (path : Path) : Option Block :=
  match (engine path).reply with
  | .diagnostics found => some (diagnosticsBlock color path.shown found)
  | .failed _ => none
  | .lost _ => none

/-- The block of an outcome, if it has lines. -/
def blockOfOutcome? (color : Bool) (path : Path) (outcome : Outcome) :
    Option Block :=
  let block := outcomeBlock color defaultExtensions path.shown outcome
  if block.isEmpty then none else some block

theorem blocksOf_eq_filterMap (color : Bool)
    (outcomes : List (Path × Outcome)) :
    blocksOf color outcomes =
      outcomes.filterMap (fun (path, outcome) =>
        blockOfOutcome? color path outcome) := by
  induction outcomes with
  | nil => rfl
  | cons head tail inductionHypothesis =>
      obtain ⟨path, outcome⟩ := head
      unfold blocksOf at inductionHypothesis ⊢
      rw [List.map_cons, List.filter_cons, inductionHypothesis,
        List.filterMap_cons]
      cases empty :
          (outcomeBlock color defaultExtensions path.shown
            outcome).isEmpty with
      | false => simp [blockOfOutcome?, empty]
      | true => simp [blockOfOutcome?, empty]

@[simp]
theorem blocksOf_nil (color : Bool) : blocksOf color [] = [] := rfl

@[simp]
theorem blocksOf_append (color : Bool)
    (left right : List (Path × Outcome)) :
    blocksOf color (left ++ right) =
      blocksOf color left ++ blocksOf color right := by
  simp [blocksOf]

theorem blocksOf_cons (color : Bool) (path : Path) (outcome : Outcome)
    (rest : List (Path × Outcome)) :
    blocksOf color ((path, outcome) :: rest) =
      (blockOfOutcome? color path outcome).toList ++ blocksOf color rest := by
  rw [blocksOf_eq_filterMap, blocksOf_eq_filterMap]
  cases reported : blockOfOutcome? color path outcome with
  | none => simp [reported]
  | some block => simp [reported]

theorem blockOfOutcome?_ofDiagnostics (color : Bool) (path : Path)
    (found : List Diagnostic) :
    blockOfOutcome? color path (Outcome.ofDiagnostics found) =
      some (diagnosticsBlock color path.shown found) := by
  cases found with
  | nil => rfl
  | cons first rest => rfl

/-- What is reported at once is one block for each input without linted files
that is no directory. -/
theorem blocksOf_settledInputs (color : Bool) (tree : FileTree)
    (inputs : List String) :
    blocksOf color (inputs.filterMap (settledInput? tree)) =
      inputs.filterMap (blockAtOnce? color tree) := by
  rw [blocksOf_eq_filterMap, List.filterMap_filterMap]
  refine List.filterMap_congr fun input _ => ?_
  unfold settledInput? blockAtOnce? outcomeAtOnce?
  cases tree.resolve defaultExtensions input with
  | missing => simp [blockOfOutcome?, outcomeBlock, missingBlock]
  | directory paths => rfl
  | file =>
      by_cases linted : extensionOf input ∈ defaultExtensions
      · simp [linted]
      · simp [linted, blockOfOutcome?, outcomeBlock, skippedBlock]

/-- The files that settle have one block each, except for failures that are
passed over. -/
theorem blocksOf_settledFiles (color : Bool) (paths : List Path) :
    blocksOf color (paths.filterMap (settledFile? engine)) =
      paths.filterMap (blockOfFile? engine color) := by
  rw [blocksOf_eq_filterMap, List.filterMap_filterMap]
  refine List.filterMap_congr fun path _ => ?_
  unfold settledFile? blockOfFile?
  cases (engine path).reply with
  | diagnostics found => exact blockOfOutcome?_ofDiagnostics color path found
  | lost cause => rfl
  | failed cause =>
      cases suppressed : cause.isSuppressed with
      | false => simp [Reply.toOutcome, suppressed, Except.toOption]
      | true =>
          simp [Reply.toOutcome, suppressed, Except.toOption,
            blockOfOutcome?, outcomeBlock]

theorem blockAtOnce?_ne_summaryBlock {color : Bool} {tree : FileTree}
    {input : String} {block : Block}
    (reported : blockAtOnce? color tree input = some block)
    (summary : Summary) : block ≠ summaryBlock color summary := by
  obtain ⟨outcome, _, rfl⟩ := Option.map_eq_some_iff.mp reported
  exact outcomeBlock_ne_summaryBlock color _ input outcome summary

theorem blockOfFile?_ne_summaryBlock {color : Bool} {path : Path}
    {block : Block}
    (reported : blockOfFile? engine color path = some block)
    (summary : Summary) : block ≠ summaryBlock color summary := by
  unfold blockOfFile? at reported
  split at reported
  · cases reported
    exact diagnosticsBlock_ne_summaryBlock color _ _ summary
  · cases reported
  · cases reported

end TemplateLint.Dispatch
