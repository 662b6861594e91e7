import TemplateLint.FileTree.Discovery
import TemplateLint.Proofs.Path
import TemplateLint.Proofs.Text.Encoding

/-!
# Paths that are texts

The path of a text has the parts of the text, shows as the text and is read
back as it: slashes and points are single bytes that occur in no other
character, and decoding undoes encoding.
-/

namespace TemplateLint

namespace Path

@[simp]
theorem ofText_append (front back : String) :
    ofText (front ++ back) = ofText front ++ ofText back := by
  simp [ofText, Text.encoded_append]

theorem length_ofText (text : String) :
    (ofText text).length = text.utf8ByteSize := by
  rw [ofText, Text.encoded_toList]
  rfl

theorem ofText_replicate {character : Char} {byte : UInt8}
    (single : String.utf8EncodeChar character = [byte]) (count : Nat) :
    ofText (String.ofList (List.replicate count character)) =
      List.replicate count byte := by
  rw [ofText, String.toList_ofList, Text.encoded, List.flatMap_replicate,
    single, List.flatten_replicate_singleton]

@[simp]
theorem ofText_eq_nil_iff {text : String} :
    ofText text = [] ↔ text = "" := by
  rw [← List.length_eq_zero_iff, length_ofText,
    String.utf8ByteSize_eq_zero_iff]

/-! ## Texts of paths -/

@[simp]
theorem shown_ofText (text : String) : shown (ofText text) = text := by
  rw [shown, ofText, Text.decodePieces_encoded, String.ofList_toList]

@[simp]
theorem toText?_ofText (text : String) :
    toText? (ofText text) = some text := by
  rw [toText?, ofText, Text.decodeStrict_encoded, String.ofList_toList]

theorem ofText_injective {left right : String}
    (same : ofText left = ofText right) : left = right := by
  rw [← shown_ofText left, same, shown_ofText]

/-! ## Parts of texts -/

theorem slash_mem_ofText_iff {text : String} :
    slash ∈ ofText text ↔ '/' ∈ text.toList :=
  @Text.mem_encoded_iff '/' (by decide) text.toList

theorem slash_not_mem_utf8EncodeChar {character : Char}
    (notSlash : character ≠ '/') :
    slash ∉ String.utf8EncodeChar character := by
  rw [Text.mem_utf8EncodeChar_iff (by decide)]
  exact fun same => notSlash (Char.toNat_inj.mp same)

/-- The parts of the path of a text are those of the text. -/
theorem parts_ofText (text : String) :
    parts (ofText text) =
      (Text.splitAt '/' text.toList).map Text.encoded := by
  unfold parts ofText
  induction text.toList with
  | nil => rfl
  | cons head tail inductionHypothesis =>
      unfold Text.encoded at inductionHypothesis ⊢
      rw [List.flatMap_cons]
      by_cases isSlash : head = '/'
      · subst isSlash
        simp only [Text.splitAt, if_true, List.map_cons, ← inductionHypothesis]
        rfl
      · have noSlash := slash_not_mem_utf8EncodeChar isSlash
        rw [Text.splitAt_append_of_not_mem noSlash, inductionHypothesis,
          Text.splitAt, if_neg isSlash]
        cases Text.splitAt '/' tail <;> simp

end Path

end TemplateLint
