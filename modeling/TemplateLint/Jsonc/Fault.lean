/-!
# What can be wrong with a commented document

The causes for which a JSON document with comments is refused, each with the
place where it was found.  A place is given by the text that begins there.
-/

namespace TemplateLint.Jsonc

/-- Why an escape for half of a surrogate pair is refused. -/
inductive SurrogateFault where
  | unpairedHigh
  | highWithoutLow
  | unpairedLow
  deriving DecidableEq, Repr

inductive Cause where
  | unexpectedToken
  | unterminatedComment
  | unterminatedText
  | escapeOfDoubleQuote
  | escapeOfSingleQuote
  | unknownEscape
  | missingHexDigits
  | surrogate (digits : String) (reason : SurrogateFault)
  | missingDigitAfterSign
  | missingDigit
  | missingExponent
  | secondValue
  | closingBracket
  | closingBrace
  | comma
  | colon
  | word
  | unterminatedObject
  | unterminatedList
  | notAName
  | missingColon
  | missingValue
  deriving DecidableEq, Repr

structure Fault where
  cause : Cause
  /-- The text from the place of the fault on. -/
  place : List Char
  deriving DecidableEq, Repr

def SurrogateFault.message : SurrogateFault → String
  | .unpairedHigh => "unpaired high surrogate"
  | .highWithoutLow => "high surrogate not followed by low surrogate"
  | .unpairedLow => "unpaired low surrogate"

def Cause.message : Cause → String
  | .unexpectedToken => "Unexpected token"
  | .unterminatedComment => "Unterminated comment block"
  | .unterminatedText => "Unterminated string literal"
  | .escapeOfDoubleQuote => "Invalid escape in single quote string"
  | .escapeOfSingleQuote => "Invalid escape in double quote string"
  | .unknownEscape => "Invalid escape"
  | .missingHexDigits => "Expected four hex digits"
  | .surrogate digits reason =>
      "Invalid unicode escape sequence. '" ++ digits ++ " (" ++
        reason.message ++ ")' is not a valid UTF8 character"
  | .missingDigitAfterSign => "Expected digit following negative sign"
  | .missingDigit => "Expected digit"
  | .missingExponent => "Expected plus, minus, or digit in number literal"
  | .secondValue => "Text cannot contain more than one JSON value"
  | .closingBracket => "Unexpected close bracket"
  | .closingBrace => "Unexpected close brace"
  | .comma => "Unexpected comma"
  | .colon => "Unexpected colon"
  | .word => "Unexpected word"
  | .unterminatedObject => "Unterminated object"
  | .unterminatedList => "Unterminated array"
  | .notAName => "Unexpected token in object"
  | .missingColon =>
      "Expected colon after the string or word in object property"
  | .missingValue => "Expected value after colon in object property"

/-- Line and column after some text, both counted from one.  A line ends with
its line feed. -/
def positionAfter (text : List Char) : Nat × Nat :=
  (text.count '\n' + 1,
    (text.reverse.takeWhile (· ≠ '\n')).length + 1)

/-- The message of a fault found in a text. -/
def Fault.message (fault : Fault) (text : List Char) : String :=
  let position := positionAfter (text.take (text.length - fault.place.length))
  fault.cause.message ++ " on line " ++ toString position.1 ++ " column " ++
    toString position.2

@[simp]
theorem positionAfter_nil : positionAfter [] = (1, 1) := rfl

end TemplateLint.Jsonc
