import TemplateLint.Json.Fault

/-!
# Scanning a JSON document

Functions that read one piece from the front of a text and answer with the
piece and the text after it.  Nothing is allowed that the format does not
allow: no comments, no trailing commas, no bare names.

A text literal is read character by character by an automaton, so that the
first thing wrong with it is what is reported.
-/

namespace TemplateLint.Json

open TemplateLint.Number

/-- Read a value of type `α` from the front of a text. -/
abbrev Reader (α : Type) := List Char → Except Fault (α × List Char)

/-! ## Blanks and words -/

/-- The four blank characters of the format. -/
def isSeparator (character : Char) : Bool :=
  character == ' ' || character == '\n' || character == '\t' ||
    character == '\r'

def skipBlanks (text : List Char) : List Char :=
  text.dropWhile isSeparator

/-- Read the remaining letters of a word. -/
def readLetters : List Char → List Char → Except Fault (List Char)
  | [], text => .ok text
  | _ :: _, [] => .error (.endOfText .value)
  | expected :: letters, found :: text =>
      if expected = found then readLetters letters text
      else .error .expectedIdent

/-! ## Text literals -/

/-- The value of a hexadecimal digit of either case. -/
def hexValue? (character : Char) : Option Nat :=
  let point := character.toNat
  if 0x30 ≤ point ∧ point ≤ 0x39 then some (point - 0x30)
  else if 0x41 ≤ point ∧ point ≤ 0x46 then some (point - 0x37)
  else if 0x61 ≤ point ∧ point ≤ 0x66 then some (point - 0x57)
  else none

/-- The text has fewer than `count` bytes. -/
def shorterThan : Nat → List Char → Bool
  | 0, _ => false
  | _ + 1, [] => true
  | count + 1, head :: tail => shorterThan (count + 1 - head.utf8Size) tail

/-- Whether escapes for surrogates must come in pairs.  Where a text is only
passed over, they need not. -/
inductive SurrogateRule where
  | paired
  | unchecked
  deriving DecidableEq, Repr

/-- Where in a text literal the automaton stands. -/
inductive LiteralState where
  /-- Between two characters. -/
  | plain
  /-- After a backslash. -/
  | escape
  /-- Within the digits of an escape, after a leading surrogate if there was
  one. -/
  | digits (missing value : Nat) (leading : Option Nat)
  /-- After a leading surrogate. -/
  | afterLeading (leading : Nat)
  /-- After a leading surrogate and a backslash. -/
  | escapeAfterLeading (leading : Nat)
  deriving DecidableEq, Repr

/-- The control character that a letter stands for after a backslash, or the
character itself. -/
def shortEscape? : Char → Option Char
  | '"' => some '"'
  | '\\' => some '\\'
  | '/' => some '/'
  | 'b' => some '\x08'
  | 'f' => some '\x0c'
  | 'n' => some '\n'
  | 'r' => some '\r'
  | 't' => some '\t'
  | _ => none

/-- What the digits of an escape amount to: a character, or the state in which
the second half is awaited. -/
def finishEscape (rule : SurrogateRule) (value : Nat) :
    Option Nat → Except Fault (Option Char × LiteralState)
  | none =>
      if rule = .unchecked then .ok (some (Char.ofNat value), .plain)
      else if 0xDC00 ≤ value ∧ value ≤ 0xDFFF then .error .loneSurrogate
      else if 0xD800 ≤ value ∧ value ≤ 0xDBFF then
        .ok (none, .afterLeading value)
      else .ok (some (Char.ofNat value), .plain)
  | some leading =>
      if 0xDC00 ≤ value ∧ value ≤ 0xDFFF then
        .ok (some (Char.ofNat
          (0x10000 + (leading - 0xD800) * 0x400 + (value - 0xDC00))), .plain)
      else .error .loneSurrogate

/-- One step of the automaton: the character completed by `head`, if one is,
and the next state.  `tail` is the text after `head`. -/
def literalStep (rule : SurrogateRule) (state : LiteralState)
    (head : Char) (tail : List Char) :
    Except Fault (Option Char × LiteralState) :=
  match state with
  | .plain =>
      if head = '\\' then .ok (none, .escape)
      else if head.toNat < 0x20 then .error .controlCharacter
      else .ok (some head, .plain)
  | .escape =>
      if head = 'u' then
        if shorterThan 4 tail then .error (.endOfText .text)
        else .ok (none, .digits 4 0 none)
      else
        match shortEscape? head with
        | some character => .ok (some character, .plain)
        | none => .error .invalidEscape
  | .digits missing value leading =>
      match hexValue? head with
      | none => .error .invalidEscape
      | some digit =>
          if missing ≤ 1 then finishEscape rule (value * 16 + digit) leading
          else .ok (none, .digits (missing - 1) (value * 16 + digit) leading)
  | .afterLeading leading =>
      if head = '\\' then .ok (none, .escapeAfterLeading leading)
      else .error .unexpectedEndOfHexEscape
  | .escapeAfterLeading leading =>
      if head = 'u' then
        if shorterThan 4 tail then .error (.endOfText .text)
        else .ok (none, .digits 4 0 (some leading))
      else .error .unexpectedEndOfHexEscape

/-- Read a text literal whose opening quote has been read. -/
def readLiteral (rule : SurrogateRule) :
    LiteralState → List Char → Except Fault (List Char × List Char)
  | _, [] => .error (.endOfText .text)
  | state, head :: tail =>
      if state = .plain ∧ head = '"' then .ok ([], tail)
      else
        match literalStep rule state head tail with
        | .error fault => .error fault
        | .ok (none, next) => readLiteral rule next tail
        | .ok (some character, next) =>
            match readLiteral rule next tail with
            | .error fault => .error fault
            | .ok (characters, rest) => .ok (character :: characters, rest)

/-! ## Numbers -/

def isDigit (character : Char) : Bool :=
  '0' ≤ character && character ≤ '9'

/-- The value of a decimal digit. -/
def digitValue (character : Char) : Nat := character.toNat - 0x30

/-- The parts of a written number, as they stand. -/
structure NumberLiteral where
  negative : Bool
  whole : List Char
  fraction : Option (List Char)
  exponent : Option (Bool × List Char)
  deriving DecidableEq, Repr

/-- Digits, at least one. -/
def readDigits (atEnd : Fault) (text : List Char) :
    Except Fault (List Char × List Char) :=
  match text with
  | [] => .error atEnd
  | head :: _ =>
      if isDigit head then
        .ok (text.takeWhile isDigit, text.dropWhile isDigit)
      else .error .invalidNumber

/-- The digits before the point: no zero before other digits. -/
def readWhole (atEnd : Fault) (text : List Char) :
    Except Fault (List Char × List Char) :=
  match text with
  | '0' :: rest =>
      if rest.head?.any isDigit then .error .invalidNumber
      else .ok (['0'], rest)
  | _ => readDigits atEnd text

/-- A point and the digits after it. -/
def readFraction (atEnd : Fault) (text : List Char) :
    Except Fault (Option (List Char) × List Char) :=
  match text with
  | '.' :: rest => do
      let (digits, rest) ← readDigits atEnd rest
      return (some digits, rest)
  | _ => .ok (none, text)

/-- The sign of an exponent; true if it is negative. -/
def readExponentSign : List Char → Bool × List Char
  | '+' :: rest => (false, rest)
  | '-' :: rest => (true, rest)
  | text => (false, text)

/-- The letter of an exponent, its sign and its digits. -/
def readExponent (atEnd : Fault) (text : List Char) :
    Except Fault (Option (Bool × List Char) × List Char) :=
  match text with
  | head :: rest =>
      if head = 'e' ∨ head = 'E' then do
        let (negative, rest) := readExponentSign rest
        let (digits, rest) ← readDigits atEnd rest
        return (some (negative, digits), rest)
      else .ok (none, text)
  | [] => .ok (none, text)

/-- A number.  `atEnd` is the fault of a text that ends within it. -/
def readNumberLiteral (atEnd : Fault) (text : List Char) :
    Except Fault (NumberLiteral × List Char) := do
  let (negative, text) :=
    match text with
    | '-' :: rest => (true, rest)
    | _ => (false, text)
  let (whole, text) ← readWhole atEnd text
  let (fraction, text) ← readFraction atEnd text
  let (exponent, text) ← readExponent atEnd text
  return (⟨negative, whole, fraction, exponent⟩, text)

/-- The value of a sequence of digits. -/
def digitsValue (digits : List Char) : Nat :=
  digits.foldl (fun value digit => value * 10 + digitValue digit) 0

/-- The greatest number of a 64-bit word. -/
def greatestWord64 : Nat := UInt64.size - 1

/-- The value of the highest bit of a 64-bit word. -/
def highestBit64 : Nat := UInt64.size / 2

/-- Append digits to a significand as long as it fits into a 64-bit word; also
the number of digits that did. -/
def appendDigits (significand : Nat) : List Char → Nat × Nat
  | [] => (significand, 0)
  | digit :: rest =>
      let next := significand * 10 + digitValue digit
      if greatestWord64 < next then (significand, 0)
      else
        let (result, count) := appendDigits next rest
        (result, count + 1)

/-- Scale a double by a power of ten.  Exponents below -308 are taken in
steps; a double that has become zero stays zero. -/
def scaleByTen : Nat → Binary64 → Int → Option Binary64
  | 0, number, _ => some number
  | steps + 1, number, exponent =>
      if number.isZero then some number
      else if 308 < exponent then none
      else if 0 ≤ exponent then do
        let power ← Binary64.ofDecimal false 1 exponent
        number.times power
      else if -308 ≤ exponent then do
        let power ← Binary64.ofDecimal false 1 (-exponent)
        number.dividedBy power
      else do
        let power ← Binary64.ofDecimal false 1 308
        let smaller ← number.dividedBy power
        scaleByTen steps smaller (exponent + 308)

/-- The double of a number literal: its leading digits, as many as fit into a
64-bit word, rounded to a double and then scaled. -/
def NumberLiteral.toDouble (literal : NumberLiteral) : Option Binary64 := do
  let (wholeValue, wholeCount) := appendDigits 0 literal.whole
  let fraction := literal.fraction.getD []
  let (significand, fractionCount) := appendDigits wholeValue fraction
  let written : Int :=
    match literal.exponent with
    | none => 0
    | some (negative, digits) =>
        if negative then -(digitsValue digits : Int) else digitsValue digits
  let exponent :=
    written + (literal.whole.length - wholeCount : Nat) - fractionCount
  let rounded ← Binary64.ofQuotient literal.negative significand 1
  scaleByTen 4 rounded exponent

/-- A number as it is understood: integers that fit into 64 bits are exact. -/
def NumberLiteral.toFound (literal : NumberLiteral) : Except Fault Found :=
  let magnitude := digitsValue literal.whole
  let exact :=
    literal.fraction.isNone && literal.exponent.isNone &&
      (if literal.negative then 0 < magnitude && magnitude ≤ highestBit64
      else magnitude ≤ greatestWord64)
  if exact then
    .ok (.integer (if literal.negative then -(magnitude : Int) else magnitude))
  else
    match literal.toDouble with
    | some number => .ok (.double number)
    | none => .error .numberOutOfRange

/-- Read a number and understand it. -/
def readNumber (text : List Char) : Except Fault (Found × List Char) := do
  let (literal, rest) ← readNumberLiteral (.endOfText .value) text
  let found ← literal.toFound
  return (found, rest)

/-! ## Passing over a value -/

mutual

/-- Pass over any value, checking its syntax only. -/
def skipValueWith : Nat → List Char → Except Fault (List Char)
  | 0, _ => .error .expectedValue
  | fuel + 1, text =>
      match skipBlanks text with
      | [] => .error (.endOfText .value)
      | head :: rest =>
          if head = 'n' then readLetters ['u', 'l', 'l'] rest
          else if head = 't' then readLetters ['r', 'u', 'e'] rest
          else if head = 'f' then readLetters ['a', 'l', 's', 'e'] rest
          else if head = '-' ∨ isDigit head then do
            let (_, rest) ← readNumberLiteral .invalidNumber (head :: rest)
            return rest
          else if head = '"' then do
            let (_, rest) ← readLiteral .unchecked .plain rest
            return rest
          else if head = '[' then
            match skipBlanks rest with
            | [] => .error (.endOfText .list)
            | ']' :: rest => .ok rest
            | items => skipItemsWith fuel items
          else if head = '\x7b' then
            match skipBlanks rest with
            | [] => .error (.endOfText .object)
            | '\x7d' :: rest => .ok rest
            | members => skipMembersWith fuel members
          else .error .expectedValue

/-- Pass over the items of a list, up to its end. -/
def skipItemsWith : Nat → List Char → Except Fault (List Char)
  | 0, _ => .error .expectedValue
  | fuel + 1, text => do
      let rest ← skipValueWith fuel text
      match skipBlanks rest with
      | [] => .error (.endOfText .list)
      | ',' :: rest => skipItemsWith fuel rest
      | ']' :: rest => .ok rest
      | _ => .error .expectedListCommaOrEnd

/-- Pass over the members of an object, up to its end. -/
def skipMembersWith : Nat → List Char → Except Fault (List Char)
  | 0, _ => .error .expectedValue
  | fuel + 1, text =>
      match skipBlanks text with
      | [] => .error (.endOfText .object)
      | '"' :: rest => do
          let (_, rest) ← readLiteral .unchecked .plain rest
          match skipBlanks rest with
          | [] => .error (.endOfText .object)
          | ':' :: rest => do
              let rest ← skipValueWith fuel rest
              match skipBlanks rest with
              | [] => .error (.endOfText .object)
              | ',' :: rest => skipMembersWith fuel rest
              | '\x7d' :: rest => .ok rest
              | _ => .error .expectedObjectCommaOrEnd
          | _ => .error .expectedColon
      | _ => .error .keyMustBeText

end

/-- Pass over any value.  Of any two nested calls at least one has read a
character, so the bound is never reached. -/
def skipValue (text : List Char) : Except Fault (List Char) :=
  skipValueWith (2 * text.length + 2) text

end TemplateLint.Json
