import TemplateLint.Proofs.Path
import TemplateLint.Proofs.Text.Encoding

/-!
# Bytes decoded line by line

The byte of a line feed stands in no longer sequence.  Bytes are therefore
well-formed exactly if each of their lines is, and decoding them line by line
gives the lines of their text.
-/

namespace TemplateLint.Text

/-! ## Lines with their ends -/

section CutAfter

variable {α : Type} [DecidableEq α]

/-- The parts of a text that end with a separator each.  The last part may
lack it, but is not empty. -/
def cutAfter (separator : α) : List α → List (List α)
  | [] => []
  | head :: tail =>
      if head = separator then [head] :: cutAfter separator tail
      else
        match cutAfter separator tail with
        | [] => [[head]]
        | part :: parts => (head :: part) :: parts

theorem cutAfter_of_not_mem {separator : α} {text : List α}
    (solid : separator ∉ text) (filled : text ≠ []) :
    cutAfter separator text = [text] := by
  induction text with
  | nil => exact absurd rfl filled
  | cons head tail inductionHypothesis =>
      rw [List.mem_cons, not_or] at solid
      have notHere : head ≠ separator := fun same => solid.1 same.symm
      by_cases last : tail = []
      · simp [last, cutAfter, notHere]
      · simp [cutAfter, notHere, inductionHypothesis solid.2 last]

theorem cutAfter_append {separator : α} {line : List α}
    (solid : separator ∉ line) (rest : List α) :
    cutAfter separator (line ++ separator :: rest) =
      (line ++ [separator]) :: cutAfter separator rest := by
  induction line with
  | nil => simp [cutAfter]
  | cons head tail inductionHypothesis =>
      rw [List.mem_cons, not_or] at solid
      have notHere : head ≠ separator := fun same => solid.1 same.symm
      simp [cutAfter, notHere, inductionHypothesis solid.2]

@[simp]
theorem flatten_cutAfter (separator : α) (text : List α) :
    (cutAfter separator text).flatten = text := by
  induction text with
  | nil => rfl
  | cons head tail inductionHypothesis =>
      unfold cutAfter
      split
      · simp [inductionHypothesis]
      · split
        · next parts =>
            rw [parts] at inductionHypothesis
            simpa using inductionHypothesis
        · next parts =>
            rw [parts] at inductionHypothesis
            simpa using inductionHypothesis

/-- A text is a last part without a separator, or a part, a separator and a
text. -/
theorem induction_cutAfter (separator : α) {Holds : List α → Prop}
    (last : ∀ line, separator ∉ line → Holds line)
    (line : ∀ line rest, separator ∉ line → Holds rest →
      Holds (line ++ separator :: rest))
    (text : List α) : Holds text := by
  induction size : text.length using Nat.strongRecOn generalizing text with
  | ind length inductionHypothesis =>
      by_cases member : separator ∈ text
      · obtain ⟨front, rest, rfl, solid⟩ :=
          List.eq_append_cons_of_mem member
        have shorter : rest.length < length := by
          rw [← size, List.length_append, List.length_cons]
          omega
        exact line front rest solid
          (inductionHypothesis rest.length shorter rest rfl)
      · exact last text member

end CutAfter

/-! ## Line feeds -/

theorem lineFeed_mem_encoded_iff {text : List Char} :
    0x0A ∈ encoded text ↔ '\n' ∈ text :=
  @mem_encoded_iff '\n' (by decide) text

theorem encoded_append_lineFeed (line rest : List Char) :
    encoded (line ++ '\n' :: rest) =
      encoded line ++ 0x0A :: encoded rest := by
  have feed : String.utf8EncodeChar '\n' = [0x0A] := by decide
  simp [encoded, feed]

/-! ## Lines of bytes -/

/-- The bytes of a text are cut where the text is. -/
theorem cutAfter_encoded (text : List Char) :
    cutAfter 0x0A (encoded text) = (cutAfter '\n' text).map encoded := by
  induction text using induction_cutAfter '\n' with
  | last line solid =>
      have solidBytes : 0x0A ∉ encoded line :=
        fun member => solid (lineFeed_mem_encoded_iff.mp member)
      by_cases filled : line = []
      · rw [filled]
        rfl
      · rw [cutAfter_of_not_mem solid filled,
          cutAfter_of_not_mem solidBytes (encoded_ne_nil filled)]
        rfl
  | line line rest solid inductionHypothesis =>
      have solidBytes : 0x0A ∉ encoded line :=
        fun member => solid (lineFeed_mem_encoded_iff.mp member)
      have ended : encoded (line ++ ['\n']) = encoded line ++ [0x0A] :=
        encoded_append_lineFeed line []
      rw [encoded_append_lineFeed, cutAfter_append solidBytes,
        cutAfter_append solid, inductionHypothesis, List.map_cons, ended]

/-- The texts of some lines, each decoded on its own. -/
def decodeEach (lines : List (List UInt8)) : Option (List String) :=
  lines.mapM fun line => decodeStrict line.toByteArray

theorem decodeEach_encoded (lines : List (List Char)) :
    decodeEach (lines.map encoded) = some (lines.map String.ofList) := by
  induction lines with
  | nil => rfl
  | cons line lines inductionHypothesis =>
      rw [decodeEach] at inductionHypothesis ⊢
      rw [List.map_cons, List.mapM_cons, decodeStrict_encoded,
        inductionHypothesis]
      rfl

theorem isValidUTF8_flatten {lines : List (List UInt8)} {texts : List String}
    (decoded : decodeEach lines = some texts) :
    lines.flatten.toByteArray.IsValidUTF8 := by
  induction lines generalizing texts with
  | nil => exact ("" : String).isValidUTF8
  | cons line lines inductionHypothesis =>
      rw [decodeEach, List.mapM_cons, Option.bind_eq_bind,
        Option.bind_eq_some_iff] at decoded
      obtain ⟨text, isText, others⟩ := decoded
      rw [Option.bind_eq_bind, Option.bind_eq_some_iff] at others
      obtain ⟨rest, areTexts, _⟩ := others
      have lineValid : line.toByteArray.IsValidUTF8 :=
        decodeStrict_eq_some_iff.mp isText ▸ text.isValidUTF8
      rw [List.flatten_cons, List.toByteArray_append]
      exact lineValid.append (inductionHypothesis areTexts)

/-- Bytes can be decoded line by line exactly if they can be decoded as a
whole, and their lines are those of the whole text. -/
theorem decodeEach_cutAfter (bytes : ByteArray) :
    decodeEach (cutAfter 0x0A bytes.data.toList) =
      (decodeStrict bytes).map fun text =>
        (cutAfter '\n' text.toList).map String.ofList := by
  cases whole : decodeStrict bytes with
  | some text =>
      have isText := decodeStrict_eq_some_iff.mp whole
      have characters : bytes.data.toList = encoded text.toList := by
        rw [isText, encoded_toList]
      rw [characters, cutAfter_encoded, decodeEach_encoded]
      rfl
  | none =>
      have malformed := decodeStrict_eq_none_iff.mp whole
      refine Option.eq_none_iff_forall_ne_some.mpr fun texts decoded => ?_
      have wellFormed := isValidUTF8_flatten decoded
      rw [flatten_cutAfter] at wellFormed
      have same : bytes.data.toList.toByteArray = bytes := by
        apply ByteArray.ext
        simp
      exact malformed (same ▸ wellFormed)

end TemplateLint.Text
