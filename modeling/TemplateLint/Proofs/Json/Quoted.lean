import TemplateLint.Json.Quoted
import TemplateLint.Proofs.Json.Grammar

/-!
# Quoted texts as they are written

Every text between its quotes is a text of the grammar, whatever characters it
holds.
-/

namespace TemplateLint.Json

theorem isHexDigit_hexDigit {value : Nat} (small : value < 16) :
    IsHexDigit (hexDigit value) value := by
  have known : ∀ value < 16,
      ('0' ≤ hexDigit value ∧ hexDigit value ≤ '9' ∧
        (hexDigit value).toNat - 0x30 = value) ∨
      ('a' ≤ hexDigit value ∧ hexDigit value ≤ 'f' ∧
        (hexDigit value).toNat - 0x61 + 10 = value) := by
    decide
  rcases known value small with ⟨low, high, same⟩ | ⟨low, high, same⟩
  · have digit := IsHexDigit.decimal low high
    rwa [same] at digit
  · have digit := IsHexDigit.lower low high
    rwa [same] at digit

/-- Two digits are enough for a control character. -/
theorem writesCharacter_control {character : Char}
    (control : character.toNat < 0x20) :
    WritesCharacter character
      ['\\', 'u', '0', '0', hexDigit (character.toNat / 16),
        hexDigit (character.toNat % 16)] := by
  have zero : IsHexDigit '0' 0 := .decimal (by decide) (by decide)
  have quad := IsQuad.digits zero zero
    (isHexDigit_hexDigit (show character.toNat / 16 < 16 by omega))
    (isHexDigit_hexDigit (show character.toNat % 16 < 16 by omega))
  have value : ((0 * 16 + 0) * 16 + character.toNat / 16) * 16 +
      character.toNat % 16 = character.toNat := by
    omega
  rw [value] at quad
  have written := WritesCharacter.point quad (by omega)
  rwa [Char.ofNat_toNat] at written

/-- The way a character is escaped is one of the ways of the grammar. -/
theorem writesCharacter_escapeCharacter (character : Char) :
    WritesCharacter character (escapeCharacter character) := by
  have named : ∀ point, character.toNat = point →
      character = Char.ofNat point := by
    rintro point rfl
    exact (Char.ofNat_toNat character).symm
  unfold escapeCharacter
  split
  · next isQuote =>
      subst isQuote
      exact .short .quote
  split
  · next isBackslash =>
      subst isBackslash
      exact .short .backslash
  split
  · next isBackspace =>
      obtain rfl := named 8 isBackspace
      exact .short .backspace
  split
  · next isFormFeed =>
      obtain rfl := named 12 isFormFeed
      exact .short .formFeed
  split
  · next isLineFeed =>
      subst isLineFeed
      exact .short .lineFeed
  split
  · next isReturn =>
      subst isReturn
      exact .short .carriageReturn
  split
  · next isTab =>
      subst isTab
      exact .short .tab
  split
  · next isControl => exact writesCharacter_control isControl
  · next notQuote notBackslash _ _ _ _ _ notControl =>
      exact .plain notQuote notBackslash (Nat.le_of_not_lt notControl)

theorem writesText_escapeAll (text : List Char) :
    WritesText text (escapeAll text) := by
  induction text with
  | nil => exact .nil
  | cons head tail inductionHypothesis =>
      exact .cons (writesCharacter_escapeCharacter head) inductionHypothesis

theorem writes_quote (text : String) :
    Writes (.document (.text text)) (quote text) := by
  have written := Writes.text (writesText_escapeAll text.toList)
  rwa [String.ofList_toList] at written

/-- A member without blanks, and the members behind it. -/
theorem writes_member {value : Document} {others : List (String × Document)}
    {text further : List Char} (name : String)
    (written : Writes (.document value) text)
    (more : Writes (.moreMembers others) further) :
    Writes (.members ((name, value) :: others))
      (quote name ++ ':' :: (text ++ further)) := by
  have member := Writes.member blanks_nil
    (writesText_escapeAll name.toList) blanks_nil blanks_nil written
    blanks_nil more
  rw [String.ofList_toList] at member
  simpa [quote] using member

end TemplateLint.Json
