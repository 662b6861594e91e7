import Mathlib.Data.List.DropRight
import TemplateLint.Proofs.Json.Grammar

/-!
# Scanning what has been written

Where a piece of a document has been written, scanning finds this piece and
stops behind it.
-/

namespace TemplateLint.Json

/-! ## Blanks -/

theorem isSeparator_iff (character : Char) :
    isSeparator character = true ↔
      character = ' ' ∨ character = '\n' ∨ character = '\t' ∨
        character = '\r' := by
  simp [isSeparator, or_assoc]

theorem skipBlanks_append {blanks : List Char} (blank : Blanks blanks)
    (text : List Char) : skipBlanks (blanks ++ text) = skipBlanks text := by
  have separators : ∀ character ∈ blanks, isSeparator character = true :=
    fun character member =>
      (isSeparator_iff character).mpr (blank character member)
  exact List.dropWhile_append_of_pos separators

theorem skipBlanks_cons {head : Char} (filled : isSeparator head = false)
    (tail : List Char) : skipBlanks (head :: tail) = head :: tail :=
  List.dropWhile_cons_of_neg (by simp [filled])

@[simp]
theorem skipBlanks_skipBlanks (text : List Char) :
    skipBlanks (skipBlanks text) = skipBlanks text :=
  List.dropWhile_idempotent isSeparator text

theorem skipBlanks_append_cons {blanks : List Char} (blank : Blanks blanks)
    {head : Char} (filled : isSeparator head = false) (tail : List Char) :
    skipBlanks (blanks ++ head :: tail) = head :: tail := by
  rw [skipBlanks_append blank, skipBlanks_cons filled]

theorem skipBlanks_of_blanks {blanks : List Char} (blank : Blanks blanks) :
    skipBlanks blanks = [] := by
  have skipped := skipBlanks_append blank []
  rwa [List.append_nil] at skipped

theorem isSeparator_of_isDigit {character : Char}
    (digit : isDigit character = true) : isSeparator character = false := by
  refine Bool.eq_false_iff.mpr fun separator => ?_
  rcases (isSeparator_iff character).mp separator with
    rfl | rfl | rfl | rfl <;> exact absurd digit (by decide)

theorem isSeparator_of_begins {document : Document} {head : Char}
    (begins : document.Begins head) : isSeparator head = false := by
  cases document with
  | boolean value =>
      cases value <;>
        · obtain rfl : head = _ := begins
          decide
  | number literal =>
      rcases begins with rfl | digit
      · decide
      · exact isSeparator_of_isDigit digit
  | null | text _ | list _ | object _ =>
      obtain rfl : head = _ := begins
      decide

/-! ## Quoted texts -/

theorem hexValue?_of_isHexDigit {digit : Char} {value : Nat}
    (isHex : IsHexDigit digit value) : hexValue? digit = some value := by
  cases isHex with
  | decimal lower upper =>
      have lowerBound : 0x30 ≤ digit.toNat := lower
      have upperBound : digit.toNat ≤ 0x39 := upper
      simp [hexValue?, lowerBound, upperBound]
  | upper lower upper =>
      have lowerBound : 0x41 ≤ digit.toNat := lower
      have upperBound : digit.toNat ≤ 0x46 := upper
      have beyond : ¬digit.toNat ≤ 0x39 := by omega
      have shifted : digit.toNat - 0x41 + 10 = digit.toNat - 0x37 := by omega
      simp [hexValue?, lowerBound, upperBound, beyond, shifted]
  | lower lower upper =>
      have lowerBound : 0x61 ≤ digit.toNat := lower
      have upperBound : digit.toNat ≤ 0x66 := upper
      have beyond : ¬digit.toNat ≤ 0x39 := by omega
      have beyondUpper : ¬digit.toNat ≤ 0x46 := by omega
      have shifted : digit.toNat - 0x61 + 10 = digit.toNat - 0x57 := by omega
      simp [hexValue?, lowerBound, upperBound, beyond, beyondUpper, shifted]

theorem utf8Size_of_isHexDigit {digit : Char} {value : Nat}
    (isHex : IsHexDigit digit value) : digit.utf8Size = 1 := by
  have small : digit.toNat ≤ 0x66 := by
    cases isHex with
    | decimal _ upper =>
        have bound : digit.toNat ≤ 0x39 := upper
        omega
    | upper _ upper =>
        have bound : digit.toNat ≤ 0x46 := upper
        omega
    | lower _ upper => exact upper
  rw [Char.utf8Size_eq_one_iff]
  apply UInt32.le_iff_toNat_le.mpr
  exact Nat.le_trans small (by decide)

theorem shortEscape?_of_abbreviates {letter character : Char}
    (abbreviates : Abbreviates letter character) :
    shortEscape? letter = some character ∧ letter ≠ 'u' := by
  cases abbreviates <;> decide

theorem shorterThan_quad {quad : List Char} {value : Nat}
    (isQuad : IsQuad quad value) (tail : List Char) :
    shorterThan 4 (quad ++ tail) = false := by
  obtain ⟨first, second, third, fourth⟩ := isQuad
  simp [shorterThan, utf8Size_of_isHexDigit first,
    utf8Size_of_isHexDigit second, utf8Size_of_isHexDigit third,
    utf8Size_of_isHexDigit fourth]

section Literal

variable {rule : SurrogateRule} {state next : LiteralState} {head : Char}
  {tail : List Char}

theorem readLiteral_step (inside : ¬(state = .plain ∧ head = '"'))
    (step : literalStep rule state head tail = .ok (none, next)) :
    readLiteral rule state (head :: tail) = readLiteral rule next tail := by
  rw [readLiteral, if_neg inside, step]

theorem readLiteral_character {character : Char} {characters rest : List Char}
    (inside : ¬(state = .plain ∧ head = '"'))
    (step : literalStep rule state head tail = .ok (some character, next))
    (read : readLiteral rule next tail = .ok (characters, rest)) :
    readLiteral rule state (head :: tail) =
      .ok (character :: characters, rest) := by
  rw [readLiteral, if_neg inside, step]
  simp only [read]

theorem literalStep_digit {digit : Char} {value missing before : Nat}
    {leading : Option Nat} (isHex : IsHexDigit digit value)
    (tail : List Char) :
    literalStep rule (.digits (missing + 2) before leading) digit tail =
      .ok (none, .digits (missing + 1) (before * 16 + value) leading) := by
  simp [literalStep, hexValue?_of_isHexDigit isHex]

/-- The last of four digits finishes an escape. -/
theorem exists_readLiteral_quad {quad : List Char} {value : Nat}
    (isQuad : IsQuad quad value) (leading : Option Nat)
    (tail : List Char) :
    ∃ digit before,
      readLiteral rule (.digits 4 0 leading) (quad ++ tail) =
        readLiteral rule (.digits 1 before leading) (digit :: tail) ∧
      literalStep rule (.digits 1 before leading) digit tail =
        finishEscape rule value leading := by
  obtain @⟨first, second, third, fourth, a, b, c, d, isFirst, isSecond,
    isThird, isFourth⟩ := isQuad
  refine ⟨fourth, (a * 16 + b) * 16 + c, ?_, ?_⟩
  · rw [List.cons_append, List.cons_append, List.cons_append,
      List.cons_append, List.nil_append,
      readLiteral_step (by simp) (literalStep_digit isFirst _),
      readLiteral_step (by simp) (literalStep_digit isSecond _),
      readLiteral_step (by simp) (literalStep_digit isThird _)]
    simp only [Nat.zero_mul, Nat.zero_add]
  · simp [literalStep, hexValue?_of_isHexDigit isFourth]

theorem readLiteral_quad {quad : List Char} {value : Nat}
    (isQuad : IsQuad quad value) {leading : Option Nat}
    (finished : finishEscape rule value leading = .ok (none, next)) :
    readLiteral rule (.digits 4 0 leading) (quad ++ tail) =
      readLiteral rule next tail := by
  obtain ⟨digit, before, read, step⟩ :=
    @exists_readLiteral_quad rule _ _ isQuad leading tail
  rw [read]
  exact readLiteral_step (by simp) (step.trans finished)

theorem readLiteral_quad_character {quad : List Char} {value : Nat}
    (isQuad : IsQuad quad value) {leading : Option Nat}
    {character : Char} {characters rest : List Char}
    (finished : finishEscape rule value leading =
      .ok (some character, next))
    (read : readLiteral rule next tail = .ok (characters, rest)) :
    readLiteral rule (.digits 4 0 leading) (quad ++ tail) =
      .ok (character :: characters, rest) := by
  obtain ⟨digit, before, quadRead, step⟩ :=
    @exists_readLiteral_quad rule _ _ isQuad leading tail
  rw [quadRead]
  exact readLiteral_character (by simp) (step.trans finished) read

/-- Behind a backslash and the letter of an escape its digits are awaited. -/
theorem readLiteral_escape {quad : List Char} {value : Nat}
    (isQuad : IsQuad quad value) (tail : List Char) :
    readLiteral rule .plain ('\\' :: 'u' :: (quad ++ tail)) =
      readLiteral rule (.digits 4 0 none) (quad ++ tail) := by
  have backslash : literalStep rule .plain '\\' ('u' :: (quad ++ tail)) =
      .ok (none, .escape) := rfl
  have letter : literalStep rule .escape 'u' (quad ++ tail) =
      .ok (none, .digits 4 0 none) := by
    simp [literalStep, shorterThan_quad isQuad tail]
  rw [readLiteral_step (by decide) backslash,
    readLiteral_step (by decide) letter]

theorem readLiteral_escape_after {quad : List Char} {value : Nat}
    (isQuad : IsQuad quad value) (leading : Nat) (tail : List Char) :
    readLiteral rule (.afterLeading leading)
        ('\\' :: 'u' :: (quad ++ tail)) =
      readLiteral rule (.digits 4 0 (some leading)) (quad ++ tail) := by
  have backslash :
      literalStep rule (.afterLeading leading) '\\'
          ('u' :: (quad ++ tail)) =
        .ok (none, .escapeAfterLeading leading) := rfl
  have letter :
      literalStep rule (.escapeAfterLeading leading) 'u' (quad ++ tail) =
        .ok (none, .digits 4 0 (some leading)) := by
    simp [literalStep, shorterThan_quad isQuad tail]
  rw [readLiteral_step (by simp) backslash,
    readLiteral_step (by simp) letter]

/-- A written character is read as it is meant.  Where texts are only passed
over, the two halves of a pair are read as two characters. -/
theorem exists_readLiteral_written {character : Char}
    {written found rest : List Char}
    (writes : WritesCharacter character written)
    (read : readLiteral rule .plain tail = .ok (found, rest)) :
    ∃ more, readLiteral rule .plain (written ++ tail) =
        .ok (more ++ found, rest) ∧
      (rule = .paired → more = [character]) := by
  cases writes with
  | plain notQuote notBackslash filled =>
      have visible : ¬character.toNat < 0x20 := by omega
      have step : literalStep rule .plain character tail =
          .ok (some character, .plain) := by
        simp [literalStep, notBackslash, visible]
      exact ⟨[character],
        readLiteral_character (fun closes => notQuote closes.2) step read,
        fun _ => rfl⟩
  | @short letter _ abbreviates =>
      obtain ⟨stands, notPoint⟩ := shortEscape?_of_abbreviates abbreviates
      have backslash : literalStep rule .plain '\\' ([letter] ++ tail) =
          .ok (none, .escape) := rfl
      have step : literalStep rule .escape letter tail =
          .ok (some character, .plain) := by
        simp [literalStep, notPoint, stands]
      exact ⟨[character],
        (readLiteral_step (by decide) backslash).trans
          (readLiteral_character (by simp) step read),
        fun _ => rfl⟩
  | @point quad value isQuad scalar =>
      have finished : finishEscape rule value none =
          .ok (some (Char.ofNat value), .plain) := by
        have notTrailing : ¬(0xDC00 ≤ value ∧ value ≤ 0xDFFF) := by omega
        have notLeading : ¬(0xD800 ≤ value ∧ value ≤ 0xDBFF) := by omega
        simp [finishEscape, notTrailing, notLeading]
      exact ⟨[Char.ofNat value],
        (readLiteral_escape isQuad tail).trans
          (readLiteral_quad_character isQuad finished read),
        fun _ => rfl⟩
  | @pair leading trailing high low isLeading lowHigh highHigh isTrailing
      lowLow highLow =>
      rw [List.cons_append, List.cons_append, List.append_assoc,
        List.cons_append, List.cons_append]
      cases rule with
      | paired =>
          have awaited : finishEscape .paired high none =
              .ok (none, .afterLeading high) := by
            have notTrailing : ¬(0xDC00 ≤ high ∧ high ≤ 0xDFFF) := by omega
            simp [finishEscape, notTrailing, lowHigh, highHigh]
          have finished : finishEscape .paired low (some high) =
              .ok (some (Char.ofNat
                (0x10000 + (high - 0xD800) * 0x400 + (low - 0xDC00))),
                .plain) := by
            simp [finishEscape, lowLow, highLow]
          refine ⟨[_], ?_, fun _ => rfl⟩
          rw [readLiteral_escape isLeading, readLiteral_quad isLeading awaited,
            readLiteral_escape_after isTrailing]
          exact readLiteral_quad_character isTrailing finished read
      | unchecked =>
          -- The halves are not put together: each is a character of its own.
          have second :=
            (readLiteral_escape isTrailing tail).trans
              (readLiteral_quad_character isTrailing rfl read)
          have first :=
            (readLiteral_escape isLeading
              ('\\' :: 'u' :: (trailing ++ tail))).trans
              (readLiteral_quad_character isLeading rfl second)
          exact ⟨[Char.ofNat high, Char.ofNat low], first, by simp⟩

/-- What is found where a text is only passed over does not matter. -/
theorem exists_readLiteral_of_writesText {characters text : List Char}
    (written : WritesText characters text) (rest : List Char) :
    ∃ found, readLiteral rule .plain (text ++ '"' :: rest) =
        .ok (found, rest) ∧
      (rule = .paired → found = characters) := by
  induction written with
  | nil => exact ⟨[], by simp [readLiteral], fun _ => rfl⟩
  | @cons character written characters text writes _ inductionHypothesis =>
      obtain ⟨found, read, foundEq⟩ := inductionHypothesis
      obtain ⟨more, readMore, moreEq⟩ := exists_readLiteral_written writes read
      rw [List.append_assoc]
      refine ⟨more ++ found, readMore, fun isPaired => ?_⟩
      rw [moreEq isPaired, foundEq isPaired, List.singleton_append]

theorem readLiteral_of_writesText {characters text : List Char}
    (written : WritesText characters text) (rest : List Char) :
    readLiteral .paired .plain (text ++ '"' :: rest) =
      .ok (characters, rest) := by
  obtain ⟨found, read, foundEq⟩ :=
    @exists_readLiteral_of_writesText .paired _ _ written rest
  rw [read, foundEq rfl]

end Literal

/-! ## Numbers -/

/-- No digits go on here. -/
def EndsDigits (text : List Char) : Prop :=
  ∀ character ∈ text.head?, isDigit character = false

theorem EndsNumber.endsDigits {text : List Char} (ends : EndsNumber text) :
    EndsDigits text :=
  fun character member => (ends character member).1

theorem takeWhile_isDigit {text : List Char} (ends : EndsDigits text) :
    text.takeWhile isDigit = [] := by
  cases text with
  | nil => rfl
  | cons head tail =>
      exact List.takeWhile_cons_of_neg (by simp [ends head rfl])

theorem dropWhile_isDigit {text : List Char} (ends : EndsDigits text) :
    text.dropWhile isDigit = text := by
  cases text with
  | nil => rfl
  | cons head tail =>
      exact List.dropWhile_cons_of_neg (by simp [ends head rfl])

section Number

variable (atEnd : Fault) {rest : List Char}

theorem readDigits_append {digits : List Char} (isDigits : IsDigits digits)
    (ends : EndsDigits rest) :
    readDigits atEnd (digits ++ rest) = .ok (digits, rest) := by
  obtain ⟨filled, areDigits⟩ := isDigits
  cases digits with
  | nil => exact absurd rfl filled
  | cons head tail =>
      have headDigit := areDigits head List.mem_cons_self
      rw [List.cons_append, readDigits, if_pos headDigit, ← List.cons_append,
        List.takeWhile_append_of_pos areDigits, takeWhile_isDigit ends,
        List.dropWhile_append_of_pos areDigits, dropWhile_isDigit ends,
        List.append_nil]

theorem readWhole_append {whole : List Char} (isWhole : IsWhole whole)
    (ends : EndsDigits rest) :
    readWhole atEnd (whole ++ rest) = .ok (whole, rest) := by
  obtain ⟨isDigits, leadingZero⟩ := isWhole
  by_cases zero : whole.head? = some '0'
  · obtain rfl := leadingZero zero
    have ended : rest.head?.any isDigit = false := by
      cases rest with
      | nil => rfl
      | cons head tail => exact ends head rfl
    simp [readWhole, ended]
  · rw [readWhole]
    · exact readDigits_append atEnd isDigits ends
    · intro others same
      cases whole with
      | nil => exact absurd rfl isDigits.1
      | cons head tail =>
          injection same with headEq _
          exact zero (congrArg some headEq)

theorem readFraction_append {fraction : Option (List Char)}
    {text : List Char} (written : WritesFraction fraction text)
    (endsDigits : EndsDigits rest) (noPoint : rest.head? ≠ some '.') :
    readFraction atEnd (text ++ rest) = .ok (fraction, rest) := by
  cases written with
  | absent =>
      rw [List.nil_append, readFraction]
      intro others same
      rw [same] at noPoint
      exact noPoint rfl
  | present isDigits =>
      rw [List.cons_append, readFraction,
        readDigits_append atEnd isDigits endsDigits]
      rfl

theorem readExponentSign_append {digits : List Char}
    (isDigits : IsDigits digits) (rest : List Char) :
    readExponentSign (digits ++ rest) = (false, digits ++ rest) := by
  obtain ⟨filled, areDigits⟩ := isDigits
  cases digits with
  | nil => exact absurd rfl filled
  | cons head tail =>
      have headDigit := areDigits head List.mem_cons_self
      unfold readExponentSign
      split
      · next same =>
          injection same with headEq _
          rw [headEq] at headDigit
          exact absurd headDigit (by decide)
      · next same =>
          injection same with headEq _
          rw [headEq] at headDigit
          exact absurd headDigit (by decide)
      · rfl

theorem readExponent_append {exponent : Option (Bool × List Char)}
    {text : List Char} (written : WritesExponent exponent text)
    (ends : EndsNumber rest) :
    readExponent atEnd (text ++ rest) = .ok (exponent, rest) := by
  cases written with
  | absent =>
      cases rest with
      | nil => rfl
      | cons head tail =>
          obtain ⟨_, _, notSmall, notCapital⟩ := ends head rfl
          simp [readExponent, notSmall, notCapital]
  | unsigned letter isDigits =>
      rw [List.cons_append, readExponent, if_pos letter,
        readExponentSign_append isDigits]
      simp only [readDigits_append atEnd isDigits ends.endsDigits]
      rfl
  | positive letter isDigits =>
      rw [List.cons_append, readExponent, if_pos letter, List.cons_append,
        readExponentSign]
      simp only [readDigits_append atEnd isDigits ends.endsDigits]
      rfl
  | negative letter isDigits =>
      rw [List.cons_append, readExponent, if_pos letter, List.cons_append,
        readExponentSign]
      simp only [readDigits_append atEnd isDigits ends.endsDigits]
      rfl

/-- Neither digits nor a point stand where an exponent may. -/
theorem endsDigits_exponent {exponent : Option (Bool × List Char)}
    {text : List Char} (written : WritesExponent exponent text)
    (ends : EndsNumber rest) :
    EndsDigits (text ++ rest) ∧ (text ++ rest).head? ≠ some '.' := by
  have atLetter {letter : Char} (isLetter : letter = 'e' ∨ letter = 'E')
      (tail : List Char) :
      EndsDigits (letter :: tail) ∧
        (letter :: tail).head? ≠ some '.' := by
    rcases isLetter with rfl | rfl
    · exact ⟨by rintro character ⟨rfl⟩; decide, by simp⟩
    · exact ⟨by rintro character ⟨rfl⟩; decide, by simp⟩
  cases written with
  | absent =>
      refine ⟨ends.endsDigits, fun point => ?_⟩
      exact (ends '.' point).2.1 rfl
  | unsigned letter _ => exact atLetter letter _
  | positive letter _ => exact atLetter letter _
  | negative letter _ => exact atLetter letter _

theorem endsDigits_fraction {fraction : Option (List Char)}
    {text : List Char} (written : WritesFraction fraction text)
    (ends : EndsDigits rest) : EndsDigits (text ++ rest) := by
  cases written with
  | absent => exact ends
  | present _ =>
      rintro character ⟨rfl⟩
      decide

theorem readNumberLiteral_append {literal : NumberLiteral}
    {text : List Char} (written : WritesNumber literal text)
    (ends : EndsNumber rest) :
    readNumberLiteral atEnd (text ++ rest) = .ok (literal, rest) := by
  obtain @⟨negative, whole, fractionText, exponentText, fraction, exponent,
    isWhole, writesFraction, writesExponent⟩ := written
  obtain ⟨exponentDigits, exponentPoint⟩ :=
    endsDigits_exponent writesExponent ends
  have wholeRead := readWhole_append atEnd isWhole
    (endsDigits_fraction writesFraction exponentDigits)
  have fractionRead := readFraction_append atEnd writesFraction
    exponentDigits exponentPoint
  have exponentRead := readExponent_append atEnd writesExponent ends
  have wholeHead : ∀ others, whole ++ (fractionText ++ (exponentText ++
      rest)) ≠ '-' :: others := by
    intro others same
    obtain ⟨⟨filled, digits⟩, _⟩ := isWhole
    cases whole with
    | nil => exact filled rfl
    | cons head tail =>
        injection same with headEq _
        have headDigit := digits head List.mem_cons_self
        rw [headEq] at headDigit
        exact absurd headDigit (by decide)
  simp only [List.append_assoc]
  cases negative with
  | true =>
      simp only [readNumberLiteral, if_true, List.singleton_append,
        wholeRead, fractionRead, exponentRead, bind, Except.bind]
      rfl
  | false =>
      unfold readNumberLiteral
      split
      next signed unsigned same =>
        split at same
        · next others front =>
            exact absurd front (wholeHead others)
        · obtain ⟨rfl, rfl⟩ := same
          simp only [Bool.false_eq_true, if_false, List.nil_append,
            wholeRead, fractionRead, exponentRead, bind, Except.bind]
          rfl

end Number

/-! ## Words -/

theorem readLetters_append (letters rest : List Char) :
    readLetters letters (letters ++ rest) = .ok rest := by
  induction letters with
  | nil => rfl
  | cons letter letters inductionHypothesis =>
      rw [List.cons_append, readLetters, if_pos rfl, inductionHypothesis]

end TemplateLint.Json
