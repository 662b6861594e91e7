import TemplateLint.Dispatch.Execution
import TemplateLint.Proofs.Dispatch.RunSummary

/-!
# Linting files one by one

The plain way to lint some files has one file in hand at a time: it calls the
linter, waits for the answer, reports what has come of it and counts it before
it turns to the next file, and it stops at the first reply that ends the run.
A run reports and ends like this when the files are taken in the order in which
they settle.
-/

namespace TemplateLint.Dispatch

open Report

/-! ## The plain linter -/

/-- What has been seen and counted so far, and how late it is. -/
structure Journal where
  time : Nat := 0
  log : List Entry := []
  summary : Summary := .empty

namespace Journal

def observe (journal : Journal) (event : Event) : Journal :=
  { journal with log := journal.log ++ [⟨journal.time, event⟩] }

/-- Call the linter, and wait for its answer. -/
def call (engine : Engine) (journal : Journal) (path : Path) : Journal :=
  { journal.observe (.called path) with
    time := journal.time + (engine path).delay }

/-- Report the outcome of a path, unless its block has no lines, and count
it. -/
def settle (color : Bool) (journal : Journal) : Path × Outcome → Journal
  | (path, outcome) =>
      { journal with
        log := journal.log ++
          reportedAt journal.time (blocksOf color [(path, outcome)])
        summary := journal.summary.record outcome }

/-- Report outcomes one after another. -/
def settleAll (color : Bool) (journal : Journal)
    (outcomes : List (Path × Outcome)) : Journal :=
  outcomes.foldl (settle color) journal

/-- End with a failure, or else report the summary. -/
def close (color : Bool) (journal : Journal) : Option RunFailure → History
  | some failure => ⟨journal.log, journal.time, .error failure⟩
  | none =>
      ⟨(journal.observe (.reported (summaryBlock color journal.summary))).log,
        journal.time, .ok journal.summary⟩

/-- Lint files one after another. -/
def lintAll (color : Bool) (engine : Engine) (journal : Journal) :
    List Path → History
  | [] => journal.close color none
  | path :: rest =>
      let answered := journal.call engine path
      match (engine path).reply.toOutcome path with
      | .error failure => answered.close color (some failure)
      | .ok outcome =>
          (answered.settle color (path, outcome)).lintAll color engine rest

end Journal

/-- Report the inputs that are missing or not linted, in order, and then lint
some files one after another. -/
def lintOneByOne (color : Bool) (tree : FileTree) (engine : Engine)
    (inputs : List String) (files : List Path) : History :=
  (Journal.settleAll color {} (inputs.filterMap (settledInput? tree))).lintAll
    color engine files

/-! ## What is seen of some files -/

variable (color : Bool) (engine : Engine)

/-- The time that it takes to lint some files one after another. -/
def elapsed : List Path → Nat
  | [] => 0
  | path :: rest => (engine path).delay + elapsed rest

@[simp]
theorem elapsed_nil : elapsed engine [] = 0 := rfl

@[simp]
theorem elapsed_cons (path : Path) (rest : List Path) :
    elapsed engine (path :: rest) =
      (engine path).delay + elapsed engine rest := rfl

@[simp]
theorem elapsed_append (left right : List Path) :
    elapsed engine (left ++ right) =
      elapsed engine left + elapsed engine right := by
  induction left with
  | nil => simp
  | cons path rest inductionHypothesis =>
      simp [inductionHypothesis, Nat.add_assoc]

/-- What is seen of files that do not end the run, from a time on. -/
def entriesFrom : Nat → List Path → List Entry
  | _, [] => []
  | time, path :: rest =>
      let answered := time + (engine path).delay
      ⟨time, .called path⟩ ::
        (reportedAt answered (blockOfFile? engine color path).toList ++
          entriesFrom answered rest)

theorem entriesFrom_append (time : Nat) (left right : List Path) :
    entriesFrom color engine time (left ++ right) =
      entriesFrom color engine time left ++
        entriesFrom color engine (time + elapsed engine left) right := by
  induction left generalizing time with
  | nil => simp [entriesFrom]
  | cons path rest inductionHypothesis =>
      simp [entriesFrom, inductionHypothesis, Nat.add_assoc]

theorem callsOf_entriesFrom_concat (time : Nat) (files : List Path)
    (path : Path) :
    callsOf (entriesFrom color engine time (files ++ [path])) =
      callsOf (entriesFrom color engine time files) ++
        [(time + elapsed engine files, path)] := by
  rw [entriesFrom_append, callsOf_append, entriesFrom, callsOf_cons_called,
    entriesFrom, List.append_nil, callsOf_reportedAt]

theorem reportsOf_entriesFrom_concat (time : Nat) (files : List Path)
    (path : Path) :
    reportsOf (entriesFrom color engine time (files ++ [path])) =
      reportsOf (entriesFrom color engine time files) ++
        (blockOfFile? engine color path).toList.map
          (fun block => (time + elapsed engine (files ++ [path]), block)) := by
  rw [entriesFrom_append, reportsOf_append, entriesFrom,
    reportsOf_cons_called, entriesFrom, List.append_nil,
    reportsOf_reportedAt]
  simp [Nat.add_assoc]

theorem blocks_entriesFrom (time : Nat) (files : List Path) :
    (reportsOf (entriesFrom color engine time files)).map Prod.snd =
      files.filterMap (blockOfFile? engine color) := by
  induction files generalizing time with
  | nil => rfl
  | cons path rest inductionHypothesis =>
      rw [entriesFrom, reportsOf_cons_called, reportsOf_append,
        reportsOf_reportedAt, List.map_append, inductionHypothesis,
        List.filterMap_cons]
      cases blockOfFile? engine color path with
      | none => rfl
      | some block => rfl

/-- Everything is seen at that time or later. -/
theorem time_le_of_mem_entriesFrom {time : Nat} {files : List Path}
    {entry : Entry} (seen : entry ∈ entriesFrom color engine time files) :
    time ≤ entry.time := by
  induction files generalizing time with
  | nil => cases seen
  | cons path rest inductionHypothesis =>
      rw [entriesFrom, List.mem_cons, List.mem_append] at seen
      rcases seen with rfl | answered | later
      · exact Nat.le_refl _
      · obtain ⟨block, _, rfl⟩ := List.mem_map.mp answered
        exact Nat.le_add_right _ _
      · exact Nat.le_trans (Nat.le_add_right _ _)
          (inductionHypothesis later)

theorem time_le_of_mem_callsOf {time : Nat} {files : List Path}
    {call : Nat × Path}
    (called : call ∈ callsOf (entriesFrom color engine time files)) :
    time ≤ call.1 := by
  obtain ⟨entry, seen, isCall⟩ := List.mem_filterMap.mp called
  obtain ⟨path, _, rfl⟩ := Option.map_eq_some_iff.mp isCall
  exact time_le_of_mem_entriesFrom color engine seen

/-- The block of an outcome is that of the file whose reply it comes from. -/
theorem blocksOf_of_toOutcome {path : Path} {outcome : Outcome}
    (settles : (engine path).reply.toOutcome path = .ok outcome) :
    blocksOf color [(path, outcome)] =
      (blockOfFile? engine color path).toList := by
  have settled := (settledFile?_eq_some_iff engine path path outcome).mpr
    ⟨rfl, settles⟩
  have blocks := blocksOf_settledFiles engine color [path]
  rw [List.filterMap_cons_some settled, List.filterMap_nil] at blocks
  rw [blocks, List.filterMap_cons]
  cases blockOfFile? engine color path with
  | none => rfl
  | some block => rfl

/-! ## Journals -/

namespace Journal

theorem settleAll_eq (outcomes : List (Path × Outcome))
    (journal : Journal) :
    journal.settleAll color outcomes =
      { time := journal.time
        log := journal.log ++
          reportedAt journal.time (blocksOf color outcomes)
        summary := journal.summary.merge (summaryOf outcomes) } := by
  induction outcomes generalizing journal with
  | nil => simp [settleAll, blocksOf, summaryOf, reportedAt]
  | cons entry rest inductionHypothesis =>
      obtain ⟨path, outcome⟩ := entry
      have later := inductionHypothesis (journal.settle color (path, outcome))
      unfold settleAll at later ⊢
      rw [List.foldl_cons, later]
      simp [settle, blocksOf_cons, summaryOf_cons, Summary.record_eq_merge,
        Summary.merge_assoc, reportedAt]

/-- The journal when some files have been linted that do not end the run. -/
def after (journal : Journal) (files : List Path) : Journal where
  time := journal.time + elapsed engine files
  log := journal.log ++ entriesFrom color engine journal.time files
  summary := journal.summary.merge
    (summaryOf (files.filterMap (settledFile? engine)))

theorem lintAll_append {before : List Path}
    (continues : ∀ path ∈ before, (engine path).reply.endsRun = false)
    (rest : List Path) (journal : Journal) :
    journal.lintAll color engine (before ++ rest) =
      (journal.after color engine before).lintAll color engine rest := by
  induction before generalizing journal with
  | nil => simp [after, entriesFrom, summaryOf]
  | cons path others inductionHypothesis =>
      obtain ⟨outcome, settles⟩ :=
        Reply.exists_toOutcome_eq_ok (continues path List.mem_cons_self) path
      have settled := (settledFile?_eq_some_iff engine path path outcome).mpr
        ⟨rfl, settles⟩
      have later := inductionHypothesis fun other member =>
        continues other (List.mem_cons_of_mem path member)
      rw [List.cons_append, lintAll, settles]
      dsimp only
      rw [later]
      congr 1
      simp [after, settle, call, observe, entriesFrom, reportedAt, settled,
        blocksOf_of_toOutcome color engine settles, summaryOf_cons,
        Summary.record_eq_merge, Summary.merge_assoc, Nat.add_assoc]

end Journal

/-! ## Histories -/

section Histories

variable (tree : FileTree) (inputs : List String)

/-- What is seen before the first file is linted. -/
def entriesAtOnce : List Entry :=
  reportedAt 0 (blocksOf color (inputs.filterMap (settledInput? tree)))

theorem blocks_entries (files : List Path) :
    (reportsOf (entriesAtOnce color tree inputs ++
        entriesFrom color engine 0 files)).map Prod.snd =
      reportedBlocks tree engine inputs color files := by
  rw [reportsOf_append, List.map_append, blocks_entriesFrom, entriesAtOnce,
    reportsOf_reportedAt, blocksOf_settledInputs, reportedBlocks]
  simp [Function.comp_def]

variable {engine}

theorem lintOneByOne_append {before : List Path}
    (continues : ∀ path ∈ before, (engine path).reply.endsRun = false)
    (rest : List Path) :
    lintOneByOne color tree engine inputs (before ++ rest) =
      Journal.lintAll color engine
        { time := elapsed engine before
          log := entriesAtOnce color tree inputs ++
            entriesFrom color engine 0 before
          summary := summaryOf (settledOutcomes tree engine inputs before) }
        rest := by
  rw [lintOneByOne, Journal.lintAll_append color engine continues,
    Journal.settleAll_eq]
  simp [Journal.after, entriesAtOnce, settledOutcomes, summaryOf_append]

/-- If no file ends the run, the summary comes when all have been linted. -/
theorem lintOneByOne_of_continues {files : List Path}
    (continues : ∀ path ∈ files, (engine path).reply.endsRun = false) :
    lintOneByOne color tree engine inputs files =
      let summary := summaryOf (settledOutcomes tree engine inputs files)
      ⟨entriesAtOnce color tree inputs ++ entriesFrom color engine 0 files ++
          reportedAt (elapsed engine files) [summaryBlock color summary],
        elapsed engine files, .ok summary⟩ := by
  have linted := lintOneByOne_append color tree inputs continues []
  rw [List.append_nil] at linted
  exact linted

/-- If a file ends the run, it is the last one for which the linter is
called. -/
theorem lintOneByOne_of_error {before : List Path} {path : Path}
    {failure : RunFailure}
    (continues : ∀ earlier ∈ before,
      (engine earlier).reply.endsRun = false)
    (fails : (engine path).reply.toOutcome path = .error failure)
    (after : List Path) :
    lintOneByOne color tree engine inputs (before ++ path :: after) =
      ⟨entriesAtOnce color tree inputs ++ entriesFrom color engine 0 before ++
          [⟨elapsed engine before, .called path⟩],
        elapsed engine (before ++ [path]), .error failure⟩ := by
  rw [lintOneByOne_append color tree inputs continues, Journal.lintAll,
    fails]
  simp [Journal.close, Journal.call, Journal.observe]

end Histories

end TemplateLint.Dispatch
