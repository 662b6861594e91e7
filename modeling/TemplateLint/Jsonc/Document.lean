import TemplateLint.Json.Value
import TemplateLint.Jsonc.Token

/-!
# Commented documents

The value of a JSON document with comments.  Names may stand without quotes,
texts may have single quotes, and after each value at most one comma is passed
over, which may also be missing.  Of equal names the last counts.
-/

namespace TemplateLint.Jsonc

open Json (Value)

/-! ## Numbers -/

/-- The hexadecimal digits of a number that has them. -/
def hexDigits? : List Char → Option (List Char)
  | '0' :: marker :: digits =>
      if marker = 'x' ∨ marker = 'X' then some digits else none
  | _ => none

/-- A number behind its sign, and whether the sign is a minus. -/
def splitSign : List Char → Bool × List Char
  | '-' :: rest => (true, rest)
  | '+' :: rest => (false, rest)
  | text => (false, text)

/-- The value of a number as it is written.  A number that is too large for
its kind is kept as text. -/
def numberValue (source : List Char) : Value :=
  let (negative, magnitude) := splitSign source
  match hexDigits? magnitude with
  | some digits =>
      let value := hexValue digits
      if value < Json.highestBit64 then
        .integer (if negative then -(value : Int) else value)
      else .text (String.ofList source)
  | none =>
      let decimal := if negative then '-' :: magnitude else magnitude
      match Json.readNumber decimal with
      | .ok (.integer value, _) => .integer value
      | .ok (.double value, _) => .double value
      | _ => .text (String.ofList source)

/-! ## Values -/

/-- The text from the next token on; nothing at the end. -/
def placeOf : List Located → List Char
  | [] => []
  | next :: _ => next.start

/-- The fault of a token that stands where something else is expected: its
own, or else the given cause. -/
def refuse (cause : Cause) : List Located → Fault
  | ⟨.broken fault, _⟩ :: _ => fault
  | tokens => ⟨cause, placeOf tokens⟩

/-- Pass over one comma. -/
def skipComma : List Located → List Located
  | ⟨.comma, _⟩ :: rest => rest
  | tokens => tokens

/-- The name that a token gives to a member. -/
def Token.name? : Token → Option String
  | .text value => some value
  | .word value => some value
  | .number source => some (String.ofList source)
  | _ => none

mutual

/-- The value at the front of the tokens. -/
def readValue : Nat → List Located → Except Fault (Value × List Located)
  | 0, tokens => .error (refuse .missingValue tokens)
  | _ + 1, [] => .error (refuse .missingValue [])
  | bound + 1, ⟨token, start⟩ :: rest =>
      match token with
      | .text value => .ok (.text value, rest)
      | .number source => .ok (numberValue source, rest)
      | .boolean value => .ok (.boolean value, rest)
      | .null => .ok (.null, rest)
      | .openBrace => do
          let (members, rest) ← readMembers bound start rest
          return (.object (NameMap.ofPairs members), rest)
      | .openBracket => do
          let (items, rest) ← readItems bound start rest
          return (.list items, rest)
      | .closeBrace => .error ⟨.closingBrace, start⟩
      | .closeBracket => .error ⟨.closingBracket, start⟩
      | .comma => .error ⟨.comma, start⟩
      | .colon => .error ⟨.colon, start⟩
      | .word _ => .error ⟨.word, start⟩
      | .broken fault => .error fault

/-- The items of a list that begins at `start`. -/
def readItems : Nat → List Char → List Located →
    Except Fault (List Value × List Located)
  | 0, _, tokens => .error (refuse .missingValue tokens)
  | _ + 1, start, [] => .error ⟨.unterminatedList, start⟩
  | _ + 1, _, ⟨.closeBracket, _⟩ :: rest => .ok ([], rest)
  | bound + 1, start, next :: rest => do
      let (item, rest) ← readValue bound (next :: rest)
      let (items, rest) ← readItems bound start (skipComma rest)
      return (item :: items, rest)

/-- The members of an object that begins at `start`, in the order in which
they stand. -/
def readMembers : Nat → List Char → List Located →
    Except Fault (List (String × Value) × List Located)
  | 0, _, tokens => .error (refuse .missingValue tokens)
  | _ + 1, start, [] => .error ⟨.unterminatedObject, start⟩
  | _ + 1, _, ⟨.closeBrace, _⟩ :: rest => .ok ([], rest)
  | bound + 1, start, next :: rest =>
      match next.token.name? with
      | none => .error (refuse .notAName (next :: rest))
      | some name =>
          match rest with
          | ⟨.colon, _⟩ :: rest => do
              let (value, rest) ← readValue bound rest
              let (members, rest) ←
                readMembers bound start (skipComma rest)
              return ((name, value) :: members, rest)
          | other => .error (refuse .missingColon other)

end

/-- The value of a text, if it holds any. -/
def parse (text : String) : Except Fault (Option Value) := do
  let located := tokens text.toList
  if located.isEmpty then return none
  else
    let (value, rest) ← readValue (2 * located.length + 1) located
    if rest.isEmpty then return some value
    else .error (refuse .secondValue rest)

end TemplateLint.Jsonc
