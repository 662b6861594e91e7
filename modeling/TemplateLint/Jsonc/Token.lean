import TemplateLint.Json.Scan
import TemplateLint.Jsonc.Fault
import TemplateLint.Text.Alphanumeric
import TemplateLint.Text.Blank

/-!
# Tokens of a commented document

A text becomes a list of tokens, each with the text that begins at it.  Blanks
and comments stand between tokens.  Where the text cannot be cut into tokens
the list ends with a broken token that holds the fault; a fault is therefore
met only by a reader that gets as far as it.
-/

namespace TemplateLint.Jsonc

inductive Token where
  | openBrace
  | closeBrace
  | openBracket
  | closeBracket
  | comma
  | colon
  | text (value : String)
  | word (value : String)
  | boolean (value : Bool)
  | null
  | number (source : List Char)
  | broken (fault : Fault)
  deriving DecidableEq, Repr

/-- A token and the text from its first character on. -/
structure Located where
  token : Token
  start : List Char
  deriving DecidableEq, Repr

/-! ## Blanks and comments -/

/-- Where between two tokens a reader stands. -/
inductive Gap where
  | blank
  | lineComment
  /-- Within a block comment that begins at `start`. -/
  | blockComment (start : List Char)
  deriving DecidableEq, Repr

/-- The text from the next token on. -/
def skipGap : Gap → List Char → Except Fault (List Char)
  | .blank, '/' :: '/' :: rest => skipGap .lineComment rest
  | .blank, '/' :: '*' :: rest =>
      skipGap (.blockComment ('/' :: '*' :: rest)) rest
  | .blank, head :: rest =>
      if Text.isBlank head then skipGap .blank rest else .ok (head :: rest)
  | .blank, [] => .ok []
  | .lineComment, head :: rest =>
      skipGap (if head = '\n' then .blank else .lineComment) rest
  | .lineComment, [] => .ok []
  | .blockComment _, '*' :: '/' :: rest => skipGap .blank rest
  | .blockComment start, _ :: rest => skipGap (.blockComment start) rest
  | .blockComment start, [] => .error ⟨.unterminatedComment, start⟩

/-! ## Text literals -/

/-- Where in a text literal a reader stands.  Within an escape, `place` is the
text from its backslash on. -/
inductive LiteralState where
  | plain
  | escape (place : List Char)
  /-- Within the first four digits of an escape; `digits` are those read, last
  first. -/
  | first (place digits : List Char)
  /-- After a high surrogate, written with these digits. -/
  | afterHigh (place : List Char) (digits : List Char)
  | escapeAfterHigh (place : List Char) (digits : List Char)
  /-- Within the digits of the second half; `digits` are those of the first
  half, `value` those read of the second. -/
  | second (place digits value : List Char)
  deriving DecidableEq, Repr

/-- The value of hexadecimal digits. -/
def hexValue (digits : List Char) : Nat :=
  digits.foldl (fun value digit =>
    value * 16 + (Json.hexValue? digit).getD 0) 0

/-- The fault of a text that ends within a literal that begins at `start`. -/
def LiteralState.atEnd (start : List Char) : LiteralState → Fault
  | .plain => ⟨.unterminatedText, start⟩
  | .escape _ => ⟨.unterminatedText, start⟩
  | .first place _ => ⟨.missingHexDigits, place⟩
  | .afterHigh place digits =>
      ⟨.surrogate (String.ofList digits) .unpairedHigh, place⟩
  | .escapeAfterHigh place digits =>
      ⟨.surrogate (String.ofList digits) .unpairedHigh, place⟩
  | .second place _ _ => ⟨.missingHexDigits, place⟩

/-- The character behind a backslash, in a literal with the given quotes. -/
def escapeStep (quote : Char) (place : List Char) (head : Char) :
    Except Fault (Option Char × LiteralState) :=
  if head = '"' ∧ quote ≠ '"' then .error ⟨.escapeOfDoubleQuote, place⟩
  else if head = '\'' then
    if quote = '\'' then .ok (some '\'', .plain)
    else .error ⟨.escapeOfSingleQuote, place⟩
  else if head = 'u' then .ok (none, .first place [])
  else
    match Json.shortEscape? head with
    | some character => .ok (some character, .plain)
    | none => .error ⟨.unknownEscape, place⟩

/-- What the first four digits of an escape amount to. -/
def finishFirst (place digits : List Char) :
    Except Fault (Option Char × LiteralState) :=
  let value := hexValue digits
  if 0xD800 ≤ value ∧ value ≤ 0xDBFF then .ok (none, .afterHigh place digits)
  else if 0xDC00 ≤ value ∧ value ≤ 0xDFFF then
    .error ⟨.surrogate (String.ofList digits) .unpairedLow, place⟩
  else .ok (some (Char.ofNat value), .plain)

/-- What the digits of both halves of a surrogate pair amount to. -/
def finishSecond (place high low : List Char) :
    Except Fault (Option Char × LiteralState) :=
  let value := hexValue low
  if 0xDC00 ≤ value ∧ value ≤ 0xDFFF then
    .ok (some (Char.ofNat
      (0x10000 + (hexValue high - 0xD800) * 0x400 + (value - 0xDC00))),
      .plain)
  else .error ⟨.surrogate (String.ofList high) .highWithoutLow, place⟩

/-- One step of the reading of a literal: the character completed by `head`,
if one is, and the next state. -/
def literalStep (quote : Char) (state : LiteralState)
    (head : Char) (tail : List Char) :
    Except Fault (Option Char × LiteralState) :=
  match state with
  | .plain =>
      if head = '\\' then .ok (none, .escape (head :: tail))
      else .ok (some head, .plain)
  | .escape place => escapeStep quote place head
  | .first place digits =>
      if (Json.hexValue? head).isNone then .error ⟨.missingHexDigits, place⟩
      else if digits.length < 3 then .ok (none, .first place (head :: digits))
      else finishFirst place (head :: digits).reverse
  | .afterHigh place digits =>
      if head = '\\' then .ok (none, .escapeAfterHigh place digits)
      else .error ⟨.surrogate (String.ofList digits) .unpairedHigh, place⟩
  | .escapeAfterHigh place digits =>
      if head = 'u' then .ok (none, .second place digits [])
      else .error ⟨.surrogate (String.ofList digits) .unpairedHigh, place⟩
  | .second place digits value =>
      if (Json.hexValue? head).isNone then .error ⟨.missingHexDigits, place⟩
      else if value.length < 3 then
        .ok (none, .second place digits (head :: value))
      else finishSecond place digits (head :: value).reverse

/-- Read a literal, whose opening quote begins the text `start` and has been
read, up to the quote that closes it. -/
def readLiteral (quote : Char) (start : List Char) :
    LiteralState → List Char → Except Fault (List Char × List Char)
  | state, [] => .error (state.atEnd start)
  | state, head :: tail =>
      if state = .plain ∧ head = quote then .ok ([], tail)
      else
        match literalStep quote state head tail with
        | .error fault => .error fault
        | .ok (none, next) => readLiteral quote start next tail
        | .ok (some character, next) =>
            match readLiteral quote start next tail with
            | .error fault => .error fault
            | .ok (characters, rest) => .ok (character :: characters, rest)

/-! ## Numbers -/

/-- Digits that satisfy a test, at least one. -/
def readSome (test : Char → Bool) (text : List Char) :
    Except Fault (List Char × List Char) :=
  match text.takeWhile test with
  | [] => .error ⟨.missingDigit, text⟩
  | digits => .ok (digits, text.dropWhile test)

/-- A point and the digits after it, if there is a point. -/
def readFraction (text : List Char) : Except Fault (List Char × List Char) :=
  match text with
  | '.' :: rest => do
      let (digits, rest) ← readSome Json.isDigit rest
      return ('.' :: digits, rest)
  | _ => .ok ([], text)

/-- The letter of an exponent, its sign and its digits, if there is such a
letter. -/
def readExponent (text : List Char) : Except Fault (List Char × List Char) :=
  match text with
  | [] => .ok ([], text)
  | letter :: rest =>
      if letter = 'e' ∨ letter = 'E' then
        match rest with
        | [] => .error ⟨.missingExponent, rest⟩
        | head :: others =>
            if head = '+' ∨ head = '-' then do
              let (digits, rest) ← readSome Json.isDigit others
              return (letter :: head :: digits, rest)
            else if Json.isDigit head then do
              let (digits, rest) ← readSome Json.isDigit rest
              return (letter :: digits, rest)
            else .error ⟨.missingExponent, rest⟩
      else .ok ([], text)

/-- The number behind a sign, hexadecimal or decimal. -/
def readMagnitude (text : List Char) :
    Except Fault (List Char × List Char) :=
  match text with
  | [] => .error ⟨.missingDigitAfterSign, text⟩
  | '0' :: marker :: rest =>
      if marker = 'x' ∨ marker = 'X' then do
        let (digits, rest) ←
          readSome (fun head => (Json.hexValue? head).isSome) rest
        return ('0' :: marker :: digits, rest)
      else readDecimal ['0'] (marker :: rest)
  | head :: rest =>
      if head = '0' then readDecimal ['0'] rest
      else if Json.isDigit head then
        readDecimal (text.takeWhile Json.isDigit)
          (text.dropWhile Json.isDigit)
      else .error ⟨.missingDigitAfterSign, text⟩
where
  /-- The rest of a decimal number whose whole part has been read. -/
  readDecimal (whole text : List Char) :
      Except Fault (List Char × List Char) := do
    let (fraction, text) ← readFraction text
    let (exponent, text) ← readExponent text
    return (whole ++ fraction ++ exponent, text)

/-- A number as it is written. -/
def readNumber (text : List Char) : Except Fault (List Char × List Char) :=
  match text with
  | [] => .error ⟨.missingDigitAfterSign, text⟩
  | head :: rest =>
      if head = '-' ∨ head = '+' then do
        let (magnitude, rest) ← readMagnitude rest
        return (head :: magnitude, rest)
      else readMagnitude text

/-! ## Words -/

/-- The characters of a word. -/
def isWordCharacter (character : Char) : Bool :=
  Text.isAlphanumeric character || character == '-' || character == '_'

/-- A blank or a colon ends a word. -/
def continuesWord (character : Char) : Bool :=
  !Text.isBlank character && character != ':'

/-- The text after a word of the language, if the text begins with it and no
letter or digit follows. -/
def afterKeyword? : List Char → List Char → Option (List Char)
  | [], text =>
      if text.head?.any Text.isAlphanumeric then none else some text
  | _ :: _, [] => none
  | letter :: letters, head :: tail =>
      if letter = head then afterKeyword? letters tail else none

/-- A word of the language, or any other word. -/
def readWord (text : List Char) : Except Fault (Token × List Char) :=
  match afterKeyword? ['t', 'r', 'u', 'e'] text with
  | some rest => .ok (.boolean true, rest)
  | none =>
      match afterKeyword? ['f', 'a', 'l', 's', 'e'] text with
      | some rest => .ok (.boolean false, rest)
      | none =>
          match afterKeyword? ['n', 'u', 'l', 'l'] text with
          | some rest => .ok (.null, rest)
          | none =>
              let word := text.takeWhile continuesWord
              if word.all isWordCharacter then
                .ok (.word (String.ofList word), text.dropWhile continuesWord)
              else .error ⟨.unexpectedToken, text⟩

/-! ## Tokens -/

/-- The token at the front of a text that begins with neither a blank nor a
comment. -/
def readToken (head : Char) (rest : List Char) :
    Except Fault (Token × List Char) :=
  if head = '\x7b' then .ok (.openBrace, rest)
  else if head = '\x7d' then .ok (.closeBrace, rest)
  else if head = '[' then .ok (.openBracket, rest)
  else if head = ']' then .ok (.closeBracket, rest)
  else if head = ',' then .ok (.comma, rest)
  else if head = ':' then .ok (.colon, rest)
  else if head = '"' ∨ head = '\'' then do
    let (characters, rest) ← readLiteral head (head :: rest) .plain rest
    return (.text (String.ofList characters), rest)
  else if head = '/' then .error ⟨.unexpectedToken, head :: rest⟩
  else if head = '-' ∨ head = '+' ∨ Json.isDigit head then do
    let (source, rest) ← readNumber (head :: rest)
    return (.number source, rest)
  else readWord (head :: rest)

/-- The tokens of a text, at most as many as the bound says. -/
def tokensWith : Nat → List Char → List Located
  | 0, _ => []
  | bound + 1, text =>
      match skipGap .blank text with
      | .error fault => [⟨.broken fault, fault.place⟩]
      | .ok [] => []
      | .ok (head :: rest) =>
          match readToken head rest with
          | .error fault => [⟨.broken fault, fault.place⟩]
          | .ok (token, after) =>
              ⟨token, head :: rest⟩ :: tokensWith bound after

/-- The tokens of a text.  Each of them has at least one character. -/
def tokens (text : List Char) : List Located :=
  tokensWith (text.length + 1) text

end TemplateLint.Jsonc
