import TemplateLint.Json.Scan

/-!
# Reading records

Readers for values of an expected form: numbers, texts, lists, records and
variants.  A record may be written as an object or as the list of its fields
in order.  Members of an object that the record does not have are passed over.
The first fault met from left to right is the one reported.
-/

namespace TemplateLint.Json

/-! ## Values of another form -/

/-- Why the value at the front of a text, which does not have the expected
form, is refused. -/
def mismatch (expected : Expectation) (text : List Char) : Fault :=
  match text with
  | [] => .endOfText .value
  | head :: rest =>
      let word (letters : List Char) (found : Found) : Fault :=
        match readLetters letters rest with
        | .error fault => fault
        | .ok _ => .wrongType found expected
      if head = 'n' then word ['u', 'l', 'l'] .null
      else if head = 't' then word ['r', 'u', 'e'] (.boolean true)
      else if head = 'f' then word ['a', 'l', 's', 'e'] (.boolean false)
      else if head = '-' ∨ isDigit head then
        match readNumber text with
        | .error fault => fault
        | .ok (found, _) => .wrongType found expected
      else if head = '"' then
        match readLiteral .paired .plain rest with
        | .error fault => fault
        | .ok (characters, _) =>
            .wrongType (.text (String.ofList characters)) expected
      else if head = '[' then .wrongType .list expected
      else if head = '\x7b' then .wrongType .object expected
      else .expectedValue

/-! ## Simple values -/

/-- A natural number that fits into a 32-bit word. -/
def readWord32 : Reader UInt32 := fun text => do
  let text := skipBlanks text
  match text with
  | [] => .error (.endOfText .value)
  | head :: _ =>
      if head = '-' ∨ isDigit head then
        let (found, rest) ← readNumber text
        match found with
        | .integer value =>
            if 0 ≤ value ∧ value < UInt32.size then
              return (UInt32.ofNat value.toNat, rest)
            else .error (.outOfRange value .word32)
        | other => .error (.wrongType other .word32)
      else .error (mismatch .word32 text)

/-- A text. -/
def readString : Reader String := fun text =>
  match skipBlanks text with
  | '"' :: rest => do
      let (characters, rest) ← readLiteral .paired .plain rest
      return (String.ofList characters, rest)
  | text => .error (mismatch .text text)

/-- The word `null`. -/
def readNothing : Reader Unit := fun text =>
  match skipBlanks text with
  | 'n' :: rest => do
      let rest ← readLetters ['u', 'l', 'l'] rest
      return ((), rest)
  | text => .error (mismatch .nothing text)

/-- The colon after a name. -/
def readColon (text : List Char) : Except Fault (List Char) :=
  match skipBlanks text with
  | [] => .error (.endOfText .object)
  | ':' :: rest => .ok rest
  | _ => .error .expectedColon

/-! ## Lists -/

/-- The text of the next item of a list, or nothing at the end of the list,
whose bracket is left standing. -/
def nextItem (first : Bool) (text : List Char) :
    Except Fault (Option (List Char)) :=
  match skipBlanks text with
  | [] => .error (.endOfText .list)
  | ']' :: _ => .ok none
  | head :: rest =>
      if first then .ok (some (head :: rest))
      else if head = ',' then
        match skipBlanks rest with
        | [] => .error (.endOfText .value)
        | ']' :: _ => .error .trailingComma
        | item => .ok (some item)
      else .error .expectedListCommaOrEnd

/-- The bracket that ends a list. -/
def closeList (text : List Char) : Except Fault (List Char) :=
  match skipBlanks text with
  | [] => .error (.endOfText .list)
  | ']' :: rest => .ok rest
  | ',' :: rest =>
      match skipBlanks rest with
      | ']' :: _ => .error .trailingComma
      | _ => .error .trailingCharacters
  | _ => .error .trailingCharacters

/-- Items up to the end of a list. -/
def readItems {α : Type} (item : Reader α) :
    Nat → Bool → Reader (List α)
  | 0, _, _ => .error .expectedValue
  | fuel + 1, first, text => do
      match ← nextItem first text with
      | none => return ([], text)
      | some text =>
          let (value, rest) ← item text
          let (values, rest) ← readItems item fuel false rest
          return (value :: values, rest)

/-- A list of values of one form. -/
def readList {α : Type} (item : Reader α) : Reader (List α) := fun text =>
  match skipBlanks text with
  | '[' :: rest => do
      let (values, rest) ← readItems item (rest.length + 1) true rest
      let rest ← closeList rest
      return (values, rest)
  | text => .error (mismatch .list text)

/-! ## Records -/

/-- A field of a record: how its value enters the part of the record that has
been read, and whether it may be left out at the end of a list. -/
structure Field (Partial : Type) where
  name : String
  mayLack : Bool
  isFilled : Partial → Bool
  fill : Partial → Reader Partial

/-- A form of record: its name in messages, its fields in order, the record of
which nothing has been read, and the completion of what has been read. -/
structure RecordForm (Partial α : Type) where
  name : String
  fields : List (Field Partial)
  empty : Partial
  complete : Partial → Except Fault α

/-- The value of a field that must be present. -/
def required {α : Type} (name : String) : Option α → Except Fault α
  | some value => .ok value
  | none => .error (.missingField name)

/-- The name of the next member of an object, from behind its opening quote,
or nothing at the end of the object, whose brace is left standing. -/
def nextMember (first : Bool) (text : List Char) :
    Except Fault (Option (List Char)) :=
  match skipBlanks text with
  | [] => .error (.endOfText .object)
  | '\x7d' :: _ => .ok none
  | head :: rest =>
      if first then
        if head = '"' then .ok (some rest) else .error .keyMustBeText
      else if head = ',' then
        match skipBlanks rest with
        | [] => .error (.endOfText .value)
        | '"' :: name => .ok (some name)
        | '\x7d' :: _ => .error .trailingComma
        | _ => .error .keyMustBeText
      else .error .expectedObjectCommaOrEnd

/-- The brace that ends an object. -/
def closeObject (text : List Char) : Except Fault (List Char) :=
  match skipBlanks text with
  | [] => .error (.endOfText .object)
  | '\x7d' :: rest => .ok rest
  | ',' :: _ => .error .trailingComma
  | _ => .error .trailingCharacters

/-- One member of an object, from behind the opening quote of its name. -/
def readMember {Partial : Type} (fields : List (Field Partial))
    (state : Partial) : Reader Partial := fun text => do
  let (characters, rest) ← readLiteral .paired .plain text
  let name := String.ofList characters
  match fields.find? (fun field => field.name == name) with
  | none =>
      let rest ← readColon rest
      let rest ← skipValue rest
      return (state, rest)
  | some field =>
      if field.isFilled state then .error (.duplicateField name)
      else
        let rest ← readColon rest
        field.fill state rest

/-- Members up to the end of an object. -/
def readMembers {Partial : Type} (fields : List (Field Partial)) :
    Nat → Bool → Partial → Reader Partial
  | 0, _, _, _ => .error .expectedValue
  | fuel + 1, first, state, text => do
      match ← nextMember first text with
      | none => return (state, text)
      | some name =>
          let (state, rest) ← readMember fields state name
          readMembers fields fuel false state rest

/-- Fields in order, up to the end of a list. -/
def readFields {Partial : Type} (record : String) (count : Nat) :
    List (Field Partial) → Nat → Partial → Reader Partial
  | [], _, state, text => .ok (state, text)
  | field :: fields, position, state, text => do
      match ← nextItem (position == 0) text with
      | some item =>
          let (state, rest) ← field.fill state item
          readFields record count fields (position + 1) state rest
      | none =>
          if field.mayLack then
            readFields record count fields (position + 1) state text
          else .error (.invalidLength position record count)

/-- A record, from an object or from the list of its fields. -/
def RecordForm.read {Partial α : Type} (form : RecordForm Partial α) :
    Reader α := fun text =>
  match skipBlanks text with
  | '[' :: rest => do
      let (state, rest) ←
        readFields form.name form.fields.length form.fields 0 form.empty rest
      let value ← form.complete state
      let rest ← closeList rest
      return (value, rest)
  | '\x7b' :: rest => do
      let (state, rest) ←
        readMembers form.fields (rest.length + 1) true form.empty rest
      let value ← form.complete state
      let rest ← closeObject rest
      return (value, rest)
  | text => .error (mismatch (.record form.name) text)

/-! ## Variants -/

/-- The name of one of two variants. -/
def chooseVariant {α : Type} (first second : String × α) (name : String) :
    Except Fault α :=
  if name = first.1 then .ok first.2
  else if name = second.1 then .ok second.2
  else .error (.unknownVariant name first.1 second.1)

/-- The name of the variant that an object holds.  An object without members
holds none. -/
def readVariantName : Reader String := fun text =>
  match skipBlanks text with
  | [] => .error (.endOfText .object)
  | '"' :: rest => do
      let (characters, rest) ← readLiteral .paired .plain rest
      return (String.ofList characters, rest)
  | '\x7d' :: _ => .error .expectedValue
  | _ => .error .keyMustBeText

/-- The brace after the content of a variant. -/
def closeVariant (text : List Char) : Except Fault (List Char) :=
  match skipBlanks text with
  | [] => .error (.endOfText .object)
  | '\x7d' :: rest => .ok rest
  | _ => .error .expectedValue

/-- A variant without content: its name, or an object with its name and
`null`. -/
def readBareVariant {α : Type} (first second : String × α) : Reader α :=
  fun text =>
    match skipBlanks text with
    | [] => .error (.endOfText .value)
    | '"' :: rest => do
        let (characters, rest) ← readLiteral .paired .plain rest
        let value ← chooseVariant first second (String.ofList characters)
        return (value, rest)
    | '\x7b' :: rest => do
        let (name, rest) ← readVariantName rest
        let value ← chooseVariant first second name
        let rest ← readColon rest
        let (_, rest) ← readNothing rest
        let rest ← closeVariant rest
        return (value, rest)
    | _ => .error .expectedValue

/-- A variant with content: an object with its name and the content. -/
def readFullVariant {α : Type} (first second : String × Reader α) :
    Reader α := fun text =>
  match skipBlanks text with
  | [] => .error (.endOfText .value)
  | '"' :: rest => do
      let (characters, _) ← readLiteral .paired .plain rest
      let _ ← chooseVariant first second (String.ofList characters)
      .error (.wrongType .bareVariant .variantContent)
  | '\x7b' :: rest => do
      let (name, rest) ← readVariantName rest
      let content ← chooseVariant first second name
      let rest ← readColon rest
      let (value, rest) ← content rest
      let rest ← closeVariant rest
      return (value, rest)
  | _ => .error .expectedValue

/-! ## Documents -/

/-- A whole text that holds one value and blanks around it. -/
def readDocument {α : Type} (value : Reader α) (text : String) :
    Except Fault α := do
  let (result, rest) ← value text.toList
  if (skipBlanks rest).isEmpty then return result
  else .error .trailingCharacters

end TemplateLint.Json
