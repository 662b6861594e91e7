import TemplateLint.Jsonc.Document
import TemplateLint.Proofs.Json.Integers

/-!
# Scanning compact texts

The tokens that a scanner of commented documents finds in the pieces of a
compact text: quoted texts, integers and words, each up to where it ends.
-/

namespace TemplateLint.Jsonc

open Json

/-! ## Where values end -/

/-- What can stand behind a value in a compact text. -/
def EndsValue (text : List Char) : Prop :=
  ∀ character ∈ text.head?,
    character = ',' ∨ character = ']' ∨ character = '\x7d'

theorem endsValue_nil : EndsValue [] := by
  intro character member
  cases member

theorem endsValue_comma (text : List Char) : EndsValue (',' :: text) := by
  rintro character ⟨rfl⟩
  exact Or.inl rfl

theorem endsValue_bracket (text : List Char) : EndsValue (']' :: text) := by
  rintro character ⟨rfl⟩
  exact Or.inr (Or.inl rfl)

theorem endsValue_brace (text : List Char) :
    EndsValue ('\x7d' :: text) := by
  rintro character ⟨rfl⟩
  exact Or.inr (Or.inr rfl)

theorem EndsValue.endsNumber {text : List Char} (ends : EndsValue text) :
    EndsNumber text := by
  intro character member
  rcases ends character member with rfl | rfl | rfl <;> decide

/-! ## Text literals -/

/-- Two digits are enough for a control character. -/
theorem hexValue_control : ∀ point < 0x20,
    hexValue ['0', '0', hexDigit (point / 16), hexDigit (point % 16)] =
      point ∧
    (Json.hexValue? (hexDigit (point / 16))).isSome ∧
    (Json.hexValue? (hexDigit (point % 16))).isSome := by
  decide

section Literal

variable {start characters text rest : List Char}

/-- A control character is read back from its four digits. -/
theorem readLiteral_control {character : Char}
    (control : character.toNat < 0x20)
    (read : readLiteral '"' start .plain text = .ok (characters, rest)) :
    readLiteral '"' start .plain
        ('\\' :: 'u' :: '0' :: '0' :: hexDigit (character.toNat / 16) ::
          hexDigit (character.toNat % 16) :: text) =
      .ok (character :: characters, rest) := by
  obtain ⟨value, firstDigit, secondDigit⟩ :=
    hexValue_control character.toNat control
  have zero : (Json.hexValue? '0').isNone = false := by decide
  have notFirst : (Json.hexValue? (hexDigit (character.toNat / 16))).isNone =
      false := by
    simpa using firstDigit
  have notSecond : (Json.hexValue? (hexDigit (character.toNat % 16))).isNone =
      false := by
    simpa using secondDigit
  have finished : ∀ place, finishFirst place
      ['0', '0', hexDigit (character.toNat / 16),
        hexDigit (character.toNat % 16)] =
          .ok (some character, .plain) := by
    intro place
    have low : ¬0xD800 ≤ character.toNat := by omega
    have notTrailing : ¬0xDC00 ≤ character.toNat := by omega
    simp [finishFirst, value, low, notTrailing]
  simp [readLiteral, literalStep, escapeStep, zero, notFirst, notSecond,
    finished, read]

/-- A character is read back from the way it is escaped. -/
theorem readLiteral_escapeCharacter (character : Char)
    (read : readLiteral '"' start .plain text = .ok (characters, rest)) :
    readLiteral '"' start .plain (escapeCharacter character ++ text) =
      .ok (character :: characters, rest) := by
  -- a backslash and a letter; the other escapes are like the first
  have short : ∀ letter, letter ≠ '\'' → letter ≠ 'u' →
      shortEscape? letter = some character →
      readLiteral '"' start .plain ('\\' :: letter :: text) =
        .ok (character :: characters, rest) := by
    intro letter noQuote notPoint escapes
    simp [readLiteral, literalStep, escapeStep, noQuote, notPoint, escapes,
      read]
  have named : ∀ point, character.toNat = point →
      character = Char.ofNat point := by
    rintro point rfl
    exact (Char.ofNat_toNat character).symm
  unfold escapeCharacter
  split
  · next isQuote =>
      subst isQuote
      exact short '"' (by decide) (by decide) rfl
  split
  · next isBackslash =>
      subst isBackslash
      exact short '\\' (by decide) (by decide) rfl
  split
  · next isBackspace =>
      obtain rfl := named 8 isBackspace
      exact short 'b' (by decide) (by decide) rfl
  split
  · next isFormFeed =>
      obtain rfl := named 12 isFormFeed
      exact short 'f' (by decide) (by decide) rfl
  split
  · next isLineFeed =>
      subst isLineFeed
      exact short 'n' (by decide) (by decide) rfl
  split
  · next isReturn =>
      subst isReturn
      exact short 'r' (by decide) (by decide) rfl
  split
  · next isTab =>
      subst isTab
      exact short 't' (by decide) (by decide) rfl
  split
  · next isControl =>
      exact readLiteral_control isControl read
  · next notQuote notBackslash _ _ _ _ _ _ =>
      simp [readLiteral, literalStep, notQuote, notBackslash, read]

theorem readLiteral_escapeAll (start characters rest : List Char) :
    readLiteral '"' start .plain (escapeAll characters ++ '"' :: rest) =
      .ok (characters, rest) := by
  induction characters with
  | nil => rfl
  | cons head tail inductionHypothesis =>
      rw [escapeAll_cons, List.append_assoc]
      exact readLiteral_escapeCharacter head inductionHypothesis

end Literal

/-! ## Numbers -/

section Number

variable {rest : List Char}

theorem readFraction_of_ends (ends : EndsNumber rest) :
    readFraction rest = .ok ([], rest) := by
  unfold readFraction
  split
  · next others => exact absurd rfl (ends '.' rfl).2.1
  · rfl

theorem readExponent_of_ends (ends : EndsNumber rest) :
    readExponent rest = .ok ([], rest) := by
  cases rest with
  | nil => rfl
  | cons head tail =>
      obtain ⟨_, _, notSmall, notCapital⟩ := ends head rfl
      simp [readExponent, notSmall, notCapital]

theorem readDecimal_of_ends (whole : List Char) (ends : EndsNumber rest) :
    readMagnitude.readDecimal whole rest = .ok (whole, rest) := by
  simp [readMagnitude.readDecimal, readFraction_of_ends ends,
    readExponent_of_ends ends, bind, Except.bind, pure, Except.pure]

theorem readMagnitude_append {whole : List Char} (isWhole : IsWhole whole)
    (ends : EndsValue rest) :
    readMagnitude (whole ++ rest) = .ok (whole, rest) := by
  obtain ⟨⟨filled, digits⟩, leadingZero⟩ := isWhole
  by_cases zero : whole.head? = some '0'
  · obtain rfl := leadingZero zero
    cases rest with
    | nil => rfl
    | cons head tail =>
        have noMarker : ¬(head = 'x' ∨ head = 'X') := by
          rcases ends head rfl with rfl | rfl | rfl <;> decide
        simp only [List.cons_append, List.nil_append, readMagnitude,
          noMarker, if_false]
        exact readDecimal_of_ends ['0'] ends.endsNumber
  · cases whole with
    | nil => exact absurd rfl filled
    | cons head tail =>
        have notZero : head ≠ '0' := fun same => zero (congrArg some same)
        have headDigit := digits head List.mem_cons_self
        have taken : (head :: tail ++ rest).takeWhile isDigit =
            head :: tail := by
          rw [List.takeWhile_append_of_pos digits,
            takeWhile_isDigit ends.endsNumber.endsDigits, List.append_nil]
        have left : (head :: tail ++ rest).dropWhile isDigit = rest := by
          rw [List.dropWhile_append_of_pos digits,
            dropWhile_isDigit ends.endsNumber.endsDigits]
        rw [List.cons_append, readMagnitude, if_neg notZero,
          if_pos headDigit, ← List.cons_append, taken, left]
        · exact readDecimal_of_ends (head :: tail) ends.endsNumber
        · intro _ _ isZero
          exact absurd isZero notZero

theorem readNumber_integerText (value : Int) (ends : EndsValue rest) :
    readNumber (integerText value ++ rest) =
      .ok (integerText value, rest) := by
  have magnitude := readMagnitude_append (isWhole_toDigits value.natAbs) ends
  rw [integerText_eq]
  by_cases negative : value < 0
  · simp [negative, readNumber, magnitude, bind, Except.bind, pure,
      Except.pure]
  · simp only [negative, if_false, List.nil_append]
    cases digits : Nat.toDigits 10 value.natAbs with
    | nil => exact absurd digits Nat.toDigits_ne_nil
    | cons head tail =>
        have headDigit : isDigit head = true :=
          isDigit_of_mem_toDigits (digits ▸ List.mem_cons_self)
        have unsigned : ¬(head = '-' ∨ head = '+') := by
          rintro (rfl | rfl) <;> exact absurd headDigit (by decide)
        rw [digits] at magnitude
        rw [List.cons_append, readNumber, if_neg unsigned]
        exact magnitude

theorem hexDigits?_of_isWhole {whole : List Char}
    (isWhole : IsWhole whole) : hexDigits? whole = none := by
  obtain ⟨_, leadingZero⟩ := isWhole
  unfold hexDigits?
  split
  · next marker digits =>
      have alone := leadingZero rfl
      simp at alone
  · rfl

/-- An integer of 64 bits is understood as itself. -/
theorem numberValue_integerText {value : Int} (wide : IsWide value) :
    numberValue (integerText value) = .integer value := by
  have isWhole := isWhole_toDigits value.natAbs
  have read := Json.readNumber_integerText wide endsNumber_nil
  rw [List.append_nil] at read
  have decimal : splitSign (integerText value) =
      (decide (value < 0), Nat.toDigits 10 value.natAbs) := by
    rw [integerText_eq]
    by_cases negative : value < 0
    · simp [negative, splitSign]
    · simp only [negative, if_false, List.nil_append, decide_false]
      unfold splitSign
      split
      · next rest digits =>
          exact absurd (isDigit_of_mem_toDigits (digits ▸ List.mem_cons_self))
            (by decide)
      · next rest digits =>
          exact absurd (isDigit_of_mem_toDigits (digits ▸ List.mem_cons_self))
            (by decide)
      · rfl
  have text : (if value < 0 then '-' :: Nat.toDigits 10 value.natAbs
      else Nat.toDigits 10 value.natAbs) = integerText value := by
    rw [integerText_eq]
    split <;> rfl
  simp only [numberValue, decimal, hexDigits?_of_isWhole isWhole,
    decide_eq_true_eq, text, read]

end Number

/-! ## Words -/

theorem afterKeyword?_append (letters : List Char) {rest : List Char}
    (ends : EndsValue rest) :
    afterKeyword? letters (letters ++ rest) = some rest := by
  induction letters with
  | nil =>
      have stops : rest.head?.any Text.isAlphanumeric = false := by
        cases rest with
        | nil => rfl
        | cons head tail =>
            have solid : ∀ character,
                character = ',' ∨ character = ']' ∨ character = '\x7d' →
                  Text.isAlphanumeric character = false := by
              rintro character (rfl | rfl | rfl) <;> decide
            exact solid head (ends head rfl)
      simp [afterKeyword?, stops]
  | cons letter letters inductionHypothesis =>
      rw [List.cons_append, afterKeyword?, if_pos rfl, inductionHypothesis]

/-! ## Scanning -/

theorem isBlank_of_isDigit {character : Char}
    (digit : isDigit character = true) : Text.isBlank character = false := by
  simp only [isDigit, Bool.and_eq_true, decide_eq_true_eq] at digit
  have lower : 0x30 ≤ character.toNat := digit.1
  have upper : character.toNat ≤ 0x39 := digit.2
  simp [Text.isBlank, Text.blankRanges, Text.inRanges]
  omega

/-- The tokens at the front of a text are of these kinds, and behind them is
the rest. -/
def Scans (text rest : List Char) (found : List Token) : Prop :=
  ∀ bound, (text ++ rest).length < bound →
    ∃ located remaining, located.map Located.token = found ∧
      rest.length < remaining ∧
      tokensWith bound (text ++ rest) =
        located ++ tokensWith remaining rest

theorem scans_nil (rest : List Char) : Scans [] rest [] :=
  fun bound enough => ⟨[], bound, rfl, enough, rfl⟩

theorem Scans.append {text others rest : List Char}
    {found further : List Token} (scans : Scans text (others ++ rest) found)
    (scansOthers : Scans others rest further) :
    Scans (text ++ others) rest (found ++ further) := by
  intro bound enough
  rw [List.append_assoc] at enough ⊢
  obtain ⟨located, middle, areFound, left, front⟩ := scans bound enough
  obtain ⟨behind, remaining, areFurther, leftBehind, back⟩ :=
    scansOthers middle left
  refine ⟨located ++ behind, remaining, ?_, leftBehind, ?_⟩
  · rw [List.map_append, areFound, areFurther]
  · rw [front, back, List.append_assoc]

/-- A single token that begins with neither a blank nor a slash. -/
theorem scans_token {head : Char} {tail rest : List Char} {token : Token}
    (filled : Text.isBlank head = false) (noSlash : head ≠ '/')
    (read : readToken head (tail ++ rest) = .ok (token, rest)) :
    Scans (head :: tail) rest [token] := by
  intro bound enough
  have gap : skipGap .blank (head :: (tail ++ rest)) =
      .ok (head :: (tail ++ rest)) := by
    rw [skipGap]
    · simp [filled]
    · intro _ isSlash
      exact absurd isSlash noSlash
    · intro _ isSlash
      exact absurd isSlash noSlash
  cases bound with
  | zero => exact absurd enough (Nat.not_lt_zero _)
  | succ bound =>
      refine ⟨[⟨token, head :: (tail ++ rest)⟩], bound, rfl, ?_, ?_⟩
      · simp only [List.cons_append, List.length_cons, List.length_append]
          at enough
        omega
      · rw [List.cons_append, tokensWith, gap]
        simp only [read]
        rfl

theorem scans_openBrace (rest : List Char) :
    Scans ['\x7b'] rest [.openBrace] :=
  scans_token (by decide) (by decide) rfl

theorem scans_closeBrace (rest : List Char) :
    Scans ['\x7d'] rest [.closeBrace] :=
  scans_token (by decide) (by decide) rfl

theorem scans_openBracket (rest : List Char) :
    Scans ['['] rest [.openBracket] :=
  scans_token (by decide) (by decide) rfl

theorem scans_closeBracket (rest : List Char) :
    Scans [']'] rest [.closeBracket] :=
  scans_token (by decide) (by decide) rfl

theorem scans_comma (rest : List Char) : Scans [','] rest [.comma] :=
  scans_token (by decide) (by decide) rfl

theorem scans_colon (rest : List Char) : Scans [':'] rest [.colon] :=
  scans_token (by decide) (by decide) rfl

theorem scans_quote (text : String) (rest : List Char) :
    Scans (quote text) rest [.text text] := by
  refine scans_token (by decide) (by decide) ?_
  have read := readLiteral_escapeAll
    ('"' :: (escapeAll text.toList ++ '"' :: rest)) text.toList rest
  simp [readToken, read, bind, Except.bind, pure, Except.pure]

theorem scans_integerText (value : Int) {rest : List Char}
    (ends : EndsValue rest) :
    Scans (integerText value) rest [.number (integerText value)] := by
  have read := readNumber_integerText value ends
  obtain ⟨head, tail, shape, begins⟩ :=
    (writesNumber_integerText value).exists_cons
  have solid : ∀ other, other ≠ '-' → isDigit other = false →
      head ≠ other := by
    rintro other noSign noDigit rfl
    rcases begins with sign | digit
    · exact noSign sign
    · exact absurd digit (by simp [noDigit])
  rw [shape] at read ⊢
  refine scans_token ?_ (solid '/' (by decide) (by decide)) ?_
  · rcases begins with rfl | digit
    · decide
    · exact isBlank_of_isDigit digit
  · have number : head = '-' ∨ head = '+' ∨ isDigit head = true := by
      rcases begins with sign | digit
      · exact Or.inl sign
      · exact Or.inr (Or.inr digit)
    rw [List.cons_append] at read
    simp only [readToken, solid '\x7b' (by decide) (by decide),
      solid '\x7d' (by decide) (by decide), solid '[' (by decide) (by decide),
      solid ']' (by decide) (by decide), solid ',' (by decide) (by decide),
      solid ':' (by decide) (by decide), solid '"' (by decide) (by decide),
      solid '\'' (by decide) (by decide), solid '/' (by decide) (by decide),
      number, read, if_false, if_true, or_self, bind, Except.bind, pure,
      Except.pure]

theorem scans_null {rest : List Char} (ends : EndsValue rest) :
    Scans ['n', 'u', 'l', 'l'] rest [.null] := by
  have word := afterKeyword?_append ['n', 'u', 'l', 'l'] ends
  have noTrue : afterKeyword? ['t', 'r', 'u', 'e']
      (['n', 'u', 'l', 'l'] ++ rest) = none := rfl
  have noFalse : afterKeyword? ['f', 'a', 'l', 's', 'e']
      (['n', 'u', 'l', 'l'] ++ rest) = none := rfl
  refine scans_token (by decide) (by decide) ?_
  change readWord (['n', 'u', 'l', 'l'] ++ rest) = _
  simp only [readWord, noTrue, noFalse, word]

theorem scans_boolean (value : Bool) {rest : List Char}
    (ends : EndsValue rest) :
    Scans (Value.boolean value).compact rest [.boolean value] := by
  cases value with
  | true =>
      have word := afterKeyword?_append ['t', 'r', 'u', 'e'] ends
      refine scans_token (by decide) (by decide) ?_
      change readWord (['t', 'r', 'u', 'e'] ++ rest) = _
      simp only [readWord, word]
  | false =>
      have word := afterKeyword?_append ['f', 'a', 'l', 's', 'e'] ends
      have noTrue : afterKeyword? ['t', 'r', 'u', 'e']
          (['f', 'a', 'l', 's', 'e'] ++ rest) = none := rfl
      refine scans_token (by decide) (by decide) ?_
      change readWord (['f', 'a', 'l', 's', 'e'] ++ rest) = _
      simp only [readWord, noTrue, word]

end TemplateLint.Jsonc
