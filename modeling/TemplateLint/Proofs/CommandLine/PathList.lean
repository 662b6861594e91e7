import TemplateLint.CommandLine.PathList
import TemplateLint.Proofs.Text.DecodedLines

/-!
# Lists of paths, written and read

Paths that are written one on each line are read as they were given, whichever
way the lines end and wherever empty lines stand between them.  Reading them
is the same as decoding and stripping each line on its own.
-/

namespace TemplateLint.CommandLine

open Text

/-! ## Written lists -/

/-- The path can be given on a line. -/
structure IsListed (path : String) : Prop where
  filled : path ≠ ""
  one_line : '\n' ∉ path.toList
  no_return : path.toList.getLast? ≠ some '\r'

/-- Paths and how they are written on lines: the line of each path ends with a
line feed and may have a carriage return before it, empty lines may have two,
and the last line may end the text, with a carriage return or without. -/
inductive WritesPaths : List String → String → Prop
  | nil : WritesPaths [] ""
  | emptyLine (blank : String) {paths : List String} {text : String} :
      blank ∈ ["\n", "\r\n", "\r\r\n"] → WritesPaths paths text →
      WritesPaths paths (blank ++ text)
  | line (ending : String) {path : String} {paths : List String}
      {text : String} :
      ending ∈ ["\n", "\r\n"] → WritesPaths paths text →
      WritesPaths (path :: paths) (path ++ ending ++ text)
  | last (ending : String) {path : String} :
      ending ∈ ["", "\r"] → WritesPaths [path] (path ++ ending)

/-! ## Reading line by line -/

/-- A line without its line feed and a carriage return before that. -/
def withoutEnd (line : List Char) : List Char :=
  if line.getLast? = some '\n' then dropReturn line.dropLast else line

/-- The path on a line that still has its end. -/
def pathOnLine (line : String) : String :=
  String.ofList (dropReturn (withoutEnd line.toList))

/-- The paths on the lines of some bytes.  Each line is decoded on its own,
and one that is not well-formed leaves nothing of the others. -/
def readEachLine (bytes : ByteArray) : Option (List String) := do
  let lines ← decodeEach (cutAfter 0x0A bytes.data.toList)
  return (lines.map pathOnLine).filter (· ≠ "")

theorem dropReturn_append_return (line : List Char) :
    dropReturn (line ++ ['\r']) = line := by
  simp [dropReturn]

theorem dropReturn_of_no_return {line : List Char}
    (noReturn : line.getLast? ≠ some '\r') : dropReturn line = line :=
  if_neg noReturn

theorem withoutEnd_append_lineFeed (line : List Char) :
    withoutEnd (line ++ ['\n']) = dropReturn line := by
  simp [withoutEnd]

theorem withoutEnd_of_not_mem {line : List Char} (oneLine : '\n' ∉ line) :
    withoutEnd line = line :=
  if_neg fun last => oneLine (List.mem_of_getLast? last)

/-! ## Reading one line more -/

/-- The path on a stripped line, or nothing if the line is empty. -/
def pathOfLine (line : List Char) : List String :=
  if line = [] then [] else [String.ofList line]

theorem pathOfLine_toList {path : String} (filled : path ≠ "") :
    pathOfLine path.toList = [path] := by
  rw [pathOfLine, if_neg (by simpa using filled), String.ofList_toList]

theorem filter_pathOnLine_cons (line : List Char)
    (lines : List (List Char)) :
    (((line :: lines).map String.ofList).map pathOnLine).filter
        (fun path => path ≠ "") =
      pathOfLine (dropReturn (withoutEnd line)) ++
        ((lines.map String.ofList).map pathOnLine).filter
          (fun path => path ≠ "") := by
  by_cases blank : dropReturn (withoutEnd line) = []
  · simp [pathOfLine, pathOnLine, blank]
  · simp [pathOfLine, pathOnLine, blank]

theorem pathsOfText_last {line : List Char} (oneLine : '\n' ∉ line) :
    pathsOfText (String.ofList line) = pathOfLine (dropReturn line) := by
  rw [pathsOfText, String.toList_ofList, splitAt_of_not_mem oneLine]
  by_cases blank : dropReturn line = []
  · simp [pathsOfLines, pathOfLine, blank]
  · simp [pathsOfLines, pathOfLine, blank]

theorem pathsOfText_line {line : List Char} (oneLine : '\n' ∉ line)
    (rest : List Char) :
    pathsOfText (String.ofList (line ++ '\n' :: rest)) =
      pathOfLine (dropReturn (dropReturn line)) ++
        pathsOfText (String.ofList rest) := by
  simp only [pathsOfText, String.toList_ofList, splitAt_append,
    splitAt_of_not_mem oneLine]
  -- What stands behind the line feed has at least one line.
  obtain ⟨next, others, lines⟩ :=
    List.exists_cons_of_ne_nil (splitAt_ne_nil '\n' rest)
  rw [lines, List.singleton_append, pathsOfLines]
  by_cases blank : dropReturn (dropReturn line) = []
  · simp [pathOfLine, blank]
  · simp [pathOfLine, blank]

/-- The paths in a text are those on its lines. -/
theorem pathsOfText_eq (text : List Char) :
    pathsOfText (String.ofList text) =
      (((cutAfter '\n' text).map String.ofList).map pathOnLine).filter
        (fun path => path ≠ "") := by
  induction text using induction_cutAfter '\n' with
  | last line oneLine =>
      rw [pathsOfText_last oneLine]
      by_cases filled : line = []
      · rw [filled]
        rfl
      · rw [cutAfter_of_not_mem oneLine filled, filter_pathOnLine_cons,
          withoutEnd_of_not_mem oneLine]
        simp
  | line line rest oneLine inductionHypothesis =>
      rw [pathsOfText_line oneLine, cutAfter_append oneLine,
        filter_pathOnLine_cons, withoutEnd_append_lineFeed,
        inductionHypothesis]

theorem readPaths_eq_readEachLine (bytes : ByteArray) :
    readPaths bytes = readEachLine bytes := by
  rw [readPaths, readEachLine, decodeEach_cutAfter]
  cases decodeStrict bytes with
  | none => rfl
  | some text =>
      have paths := pathsOfText_eq text.toList
      rw [String.ofList_toList] at paths
      exact congrArg some paths

/-! ## Reading what has been written -/

/-- Up to two carriage returns in front of a line feed do not belong to the
path. -/
theorem pathsOfText_ended {line ending : String}
    (oneLine : '\n' ∉ line.toList)
    (noReturn : line.toList.getLast? ≠ some '\r')
    (ends : ending ∈ ["\n", "\r\n", "\r\r\n"]) (text : String) :
    pathsOfText (line ++ ending ++ text) =
      pathOfLine line.toList ++ pathsOfText text := by
  have unchanged := dropReturn_of_no_return noReturn
  obtain ⟨returns, whole, solid, same⟩ :
      ∃ returns, ending.toList = returns ++ ['\n'] ∧
        '\n' ∉ line.toList ++ returns ∧
        dropReturn (dropReturn (line.toList ++ returns)) = line.toList := by
    simp only [List.mem_cons, List.not_mem_nil, or_false] at ends
    rcases ends with rfl | rfl | rfl
    · refine ⟨[], rfl, by simpa using oneLine, ?_⟩
      rw [List.append_nil, unchanged, unchanged]
    · refine ⟨['\r'], rfl, by simpa using oneLine, ?_⟩
      rw [dropReturn_append_return, unchanged]
    · refine ⟨['\r', '\r'], rfl, by simpa using oneLine, ?_⟩
      rw [List.append_cons, dropReturn_append_return,
        dropReturn_append_return]
  have shape : line ++ ending ++ text =
      String.ofList ((line.toList ++ returns) ++ '\n' :: text.toList) := by
    rw [← String.toList_inj]
    simp [whole]
  rw [shape, pathsOfText_line solid, same, String.ofList_toList]

theorem pathsOfText_last_path {ending path : String} (listed : IsListed path)
    (ends : ending ∈ ["", "\r"]) : pathsOfText (path ++ ending) = [path] := by
  obtain ⟨filled, oneLine, noReturn⟩ := listed
  have shape : path ++ ending =
      String.ofList (path.toList ++ ending.toList) := by
    rw [← String.toList_inj]
    simp
  have solidAndSame : '\n' ∉ path.toList ++ ending.toList ∧
      dropReturn (path.toList ++ ending.toList) = path.toList := by
    simp only [List.mem_cons, List.not_mem_nil, or_false] at ends
    rcases ends with rfl | rfl
    · exact ⟨by simpa using oneLine, by
        simpa using dropReturn_of_no_return noReturn⟩
    · exact ⟨by simpa using oneLine, dropReturn_append_return _⟩
  rw [shape, pathsOfText_last solidAndSame.1, solidAndSame.2,
    pathOfLine_toList filled]

theorem pathsOfText_of_writesPaths {paths : List String} {text : String}
    (listed : ∀ path ∈ paths, IsListed path)
    (written : WritesPaths paths text) : pathsOfText text = paths := by
  induction written with
  | nil => rfl
  | @emptyLine blank paths text isBlank _ inductionHypothesis =>
      have ended : pathsOfText ("" ++ blank ++ text) = pathsOfText text :=
        pathsOfText_ended (by simp) (by simp) isBlank text
      rw [String.empty_append] at ended
      exact ended.trans (inductionHypothesis listed)
  | @line ending path paths text ends _ inductionHypothesis =>
      obtain ⟨⟨filled, oneLine, noReturn⟩, others⟩ :=
        List.forall_mem_cons.mp listed
      rw [pathsOfText_ended oneLine noReturn
          (List.mem_append_left ["\r\r\n"] ends),
        pathOfLine_toList filled, inductionHypothesis others]
      rfl
  | last ending ends =>
      exact pathsOfText_last_path (listed _ List.mem_cons_self) ends

theorem lineFeed_not_mem_dropReturn {line : List Char}
    (oneLine : '\n' ∉ line) : '\n' ∉ dropReturn line := by
  unfold dropReturn
  split
  · exact fun member => oneLine (List.dropLast_subset line member)
  · exact oneLine

theorem mem_pathOfLine_iff {line : List Char} {path : String} :
    path ∈ pathOfLine line ↔ line ≠ [] ∧ path = String.ofList line := by
  unfold pathOfLine
  split <;> simp [*]

/-- Every path that is read stands on one line. -/
theorem lineFeed_not_mem_of_mem_pathsOfText {text path : String}
    (member : path ∈ pathsOfText text) : '\n' ∉ path.toList := by
  rw [← String.ofList_toList (s := text)] at member
  generalize text.toList = characters at member
  induction characters using induction_cutAfter '\n' with
  | last line oneLine =>
      rw [pathsOfText_last oneLine, mem_pathOfLine_iff] at member
      rw [member.2, String.toList_ofList]
      exact lineFeed_not_mem_dropReturn oneLine
  | line line rest oneLine inductionHypothesis =>
      rw [pathsOfText_line oneLine, List.mem_append, mem_pathOfLine_iff]
        at member
      rcases member with ⟨_, rfl⟩ | behind
      · rw [String.toList_ofList]
        exact lineFeed_not_mem_dropReturn
          (lineFeed_not_mem_dropReturn oneLine)
      · exact inductionHypothesis behind

/-- Written paths are read back in order.  Reading fails exactly for bytes
that are not well-formed as a whole, although each line is decoded on its own,
and gives no empty path and none that goes over a line. -/
theorem readPaths_of_writesPaths :
    (∀ (paths : List String) (text : String),
      (∀ path ∈ paths, IsListed path) → WritesPaths paths text →
      readPaths text.toUTF8 = some paths) ∧
    ∀ bytes : ByteArray,
      readPaths bytes = readEachLine bytes ∧
      (readPaths bytes = none ↔ ¬bytes.IsValidUTF8) ∧
      ∀ paths, readPaths bytes = some paths →
        ∀ path ∈ paths, path ≠ "" ∧ '\n' ∉ path.toList := by
  refine ⟨fun paths text listed written => ?_, fun bytes =>
    ⟨readPaths_eq_readEachLine bytes, ?_, fun paths read path member => ?_⟩⟩
  · have decoded : decodeStrict text.toUTF8 = some text :=
      decodeStrict_eq_some_iff.mpr String.toUTF8_eq_toByteArray
    rw [readPaths, decoded, Option.map_some,
      pathsOfText_of_writesPaths listed written]
  · rw [readPaths, Option.map_eq_none_iff, decodeStrict_eq_none_iff]
  · rw [readPaths, Option.map_eq_some_iff] at read
    obtain ⟨text, _, rfl⟩ := read
    exact ⟨pathsOfText_ne_empty member,
      lineFeed_not_mem_of_mem_pathsOfText member⟩

/-- Each kind of empty line and of ending, and a carriage return that belongs
to a path. -/
theorem readPaths_of_writesPaths_mixed :
    let paths := ["a", " b\rc", "d"]
    let text := "\r\r\na\r\n\n b\rc\n\r\nd\r"
    (∀ path ∈ paths, IsListed path) ∧ WritesPaths paths text ∧
      readPaths text.toUTF8 = some paths := by
  intro paths text
  have listed : ∀ path ∈ paths, IsListed path := by
    simp only [paths, List.forall_mem_cons]
    exact ⟨⟨by decide, by decide, by decide⟩,
      ⟨by decide, by decide, by decide⟩,
      ⟨by decide, by decide, by decide⟩, by simp⟩
  have written : WritesPaths paths text :=
    .emptyLine "\r\r\n" (by simp)
      (.line "\r\n" (by simp)
        (.emptyLine "\n" (by simp)
          (.line "\n" (by simp)
            (.emptyLine "\r\n" (by simp)
              (.last "\r" (by simp))))))
  exact ⟨listed, written, readPaths_of_writesPaths.1 paths text listed written⟩

end TemplateLint.CommandLine
