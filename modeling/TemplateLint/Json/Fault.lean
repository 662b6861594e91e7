import TemplateLint.Number.Shortest
import TemplateLint.Text.Printable

/-!
# What can be wrong with a JSON document

The causes for which a document is refused when it is read as a record of a
known form, and their messages.
-/

namespace TemplateLint.Json

/-- What was being read when the text ended. -/
inductive Construct where
  | value
  | list
  | object
  | text
  deriving DecidableEq, Repr

/-- What stands in the document where something else was expected. -/
inductive Found where
  | null
  | boolean (value : Bool)
  | integer (value : Int)
  | double (value : Number.Binary64)
  | text (value : String)
  | list
  | object
  | bareVariant
  deriving DecidableEq, Repr

/-- What the form of the document asks for. -/
inductive Expectation where
  | word32
  | text
  | list
  | nothing
  | record (name : String)
  | variantContent
  deriving DecidableEq, Repr

/-- The causes of a refusal. -/
inductive Fault where
  | endOfText (reading : Construct)
  | expectedValue
  | expectedColon
  | expectedListCommaOrEnd
  | expectedObjectCommaOrEnd
  | expectedIdent
  | keyMustBeText
  | trailingComma
  | trailingCharacters
  | invalidNumber
  | numberOutOfRange
  | invalidEscape
  | unexpectedEndOfHexEscape
  | loneSurrogate
  | controlCharacter
  | wrongType (found : Found) (expected : Expectation)
  | outOfRange (found : Int) (expected : Expectation)
  | missingField (name : String)
  | duplicateField (name : String)
  | invalidLength (length : Nat) (record : String) (fields : Nat)
  | unknownVariant (name first second : String)
  deriving DecidableEq, Repr

def Construct.message : Construct → String
  | .value => "a value"
  | .list => "a list"
  | .object => "an object"
  | .text => "a string"

/-- A name or number between grave accents. -/
def accented (text : String) : String :=
  "\x60" ++ text ++ "\x60"

def Found.message : Found → String
  | .null => "null"
  | .boolean true => "boolean " ++ accented "true"
  | .boolean false => "boolean " ++ accented "false"
  | .integer value => "integer " ++ accented (toString value)
  | .double value => "floating point " ++ accented value.render
  | .text value => "string " ++ Text.quoted value
  | .list => "sequence"
  | .object => "map"
  | .bareVariant => "unit variant"

def Expectation.message : Expectation → String
  | .word32 => "u32"
  | .text => "a string"
  | .list => "a sequence"
  | .nothing => "unit"
  | .record name => "struct " ++ name
  | .variantContent => "newtype variant"

/-- The message of a refusal. -/
def Fault.message : Fault → String
  | .endOfText reading => "EOF while parsing " ++ reading.message
  | .expectedValue => "expected value"
  | .expectedColon => "expected " ++ accented ":"
  | .expectedListCommaOrEnd =>
      "expected " ++ accented "," ++ " or " ++ accented "]"
  | .expectedObjectCommaOrEnd =>
      "expected " ++ accented "," ++ " or " ++ accented "\x7d"
  | .expectedIdent => "expected ident"
  | .keyMustBeText => "key must be a string"
  | .trailingComma => "trailing comma"
  | .trailingCharacters => "trailing characters"
  | .invalidNumber => "invalid number"
  | .numberOutOfRange => "number out of range"
  | .invalidEscape => "invalid escape"
  | .unexpectedEndOfHexEscape => "unexpected end of hex escape"
  | .loneSurrogate => "lone leading surrogate in hex escape"
  | .controlCharacter =>
      "control character (\\u0000-\\u001F) found while parsing a string"
  | .wrongType found expected =>
      "invalid type: " ++ found.message ++ ", expected " ++ expected.message
  | .outOfRange found expected =>
      "invalid value: " ++ (Found.integer found).message ++ ", expected " ++
        expected.message
  | .missingField name => "missing field " ++ accented name
  | .duplicateField name => "duplicate field " ++ accented name
  | .invalidLength length record fields =>
      "invalid length " ++ toString length ++ ", expected struct " ++
        record ++ " with " ++ toString fields ++ " elements"
  | .unknownVariant name first second =>
      "unknown variant " ++ accented name ++ ", expected " ++
        accented first ++ " or " ++ accented second

end TemplateLint.Json
