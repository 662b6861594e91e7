import TemplateLint.Json.Scan

/-!
# The grammar of JSON

Which texts write which documents.  A document keeps what was written: the
digits of a number, the order of members, and every member of a name that
occurs more than once.  Escaped surrogates come in pairs, so that every quoted
text says a sequence of characters.
-/

namespace TemplateLint.Json

/-- A document as it is written. -/
inductive Document where
  | null
  | boolean (value : Bool)
  | number (literal : NumberLiteral)
  | text (value : String)
  | list (items : List Document)
  | object (members : List (String × Document))
  deriving Repr

/-! ## Blanks -/

def Blanks (text : List Char) : Prop :=
  ∀ character ∈ text,
    character = ' ' ∨ character = '\n' ∨ character = '\t' ∨
      character = '\r'

/-! ## Quoted texts -/

/-- A letter behind a backslash stands for a character. -/
inductive Abbreviates : Char → Char → Prop
  | quote : Abbreviates '"' '"'
  | backslash : Abbreviates '\\' '\\'
  | slash : Abbreviates '/' '/'
  | backspace : Abbreviates 'b' '\x08'
  | formFeed : Abbreviates 'f' '\x0c'
  | lineFeed : Abbreviates 'n' '\n'
  | carriageReturn : Abbreviates 'r' '\r'
  | tab : Abbreviates 't' '\t'

inductive IsHexDigit : Char → Nat → Prop
  | decimal {digit : Char} : '0' ≤ digit → digit ≤ '9' →
      IsHexDigit digit (digit.toNat - 0x30)
  | upper {digit : Char} : 'A' ≤ digit → digit ≤ 'F' →
      IsHexDigit digit (digit.toNat - 0x41 + 10)
  | lower {digit : Char} : 'a' ≤ digit → digit ≤ 'f' →
      IsHexDigit digit (digit.toNat - 0x61 + 10)

/-- Four hexadecimal digits and their value. -/
inductive IsQuad : List Char → Nat → Prop
  | digits {first second third fourth : Char} {a b c d : Nat} :
      IsHexDigit first a → IsHexDigit second b →
      IsHexDigit third c → IsHexDigit fourth d →
      IsQuad [first, second, third, fourth]
        (((a * 16 + b) * 16 + c) * 16 + d)

/-- One character and how it is written between quotes. -/
inductive WritesCharacter : Char → List Char → Prop
  | plain {character : Char} :
      character ≠ '"' → character ≠ '\\' → 0x20 ≤ character.toNat →
      WritesCharacter character [character]
  | short {letter character : Char} :
      Abbreviates letter character →
      WritesCharacter character ['\\', letter]
  | point {quad : List Char} {value : Nat} :
      IsQuad quad value → ¬(0xD800 ≤ value ∧ value ≤ 0xDFFF) →
      WritesCharacter (Char.ofNat value) ('\\' :: 'u' :: quad)
  | pair {leading trailing : List Char} {high low : Nat} :
      IsQuad leading high → 0xD800 ≤ high → high ≤ 0xDBFF →
      IsQuad trailing low → 0xDC00 ≤ low → low ≤ 0xDFFF →
      WritesCharacter
        (Char.ofNat (0x10000 + (high - 0xD800) * 0x400 + (low - 0xDC00)))
        ('\\' :: 'u' :: (leading ++ '\\' :: 'u' :: trailing))

/-- Characters and how they are written between quotes. -/
inductive WritesText : List Char → List Char → Prop
  | nil : WritesText [] []
  | cons {character : Char} {written characters text : List Char} :
      WritesCharacter character written → WritesText characters text →
      WritesText (character :: characters) (written ++ text)

theorem writesText_of_plain {text : List Char}
    (plain : ∀ character ∈ text, character ≠ '"' ∧ character ≠ '\\' ∧
      0x20 ≤ character.toNat) : WritesText text text := by
  induction text with
  | nil => exact .nil
  | cons head tail inductionHypothesis =>
      obtain ⟨notQuote, notBackslash, visible⟩ :=
        plain head List.mem_cons_self
      exact .cons (.plain notQuote notBackslash visible)
        (inductionHypothesis fun character member =>
          plain character (List.mem_cons_of_mem head member))

/-! ## Numbers -/

def IsDigits (text : List Char) : Prop :=
  text ≠ [] ∧ ∀ character ∈ text, isDigit character = true

/-- Digits without a zero in front of others. -/
def IsWhole (text : List Char) : Prop :=
  IsDigits text ∧ (text.head? = some '0' → text = ['0'])

instance (text : List Char) : Decidable (IsDigits text) :=
  decidable_of_iff (text ≠ [] ∧ text.all isDigit = true)
    (by simp [IsDigits, List.all_eq_true])

instance (text : List Char) : Decidable (IsWhole text) :=
  inferInstanceAs
    (Decidable (IsDigits text ∧ (text.head? = some '0' → text = ['0'])))

inductive WritesFraction : Option (List Char) → List Char → Prop
  | absent : WritesFraction none []
  | present {digits : List Char} :
      IsDigits digits → WritesFraction (some digits) ('.' :: digits)

inductive WritesExponent : Option (Bool × List Char) → List Char → Prop
  | absent : WritesExponent none []
  | unsigned {letter : Char} {digits : List Char} :
      letter = 'e' ∨ letter = 'E' → IsDigits digits →
      WritesExponent (some (false, digits)) (letter :: digits)
  | positive {letter : Char} {digits : List Char} :
      letter = 'e' ∨ letter = 'E' → IsDigits digits →
      WritesExponent (some (false, digits)) (letter :: '+' :: digits)
  | negative {letter : Char} {digits : List Char} :
      letter = 'e' ∨ letter = 'E' → IsDigits digits →
      WritesExponent (some (true, digits)) (letter :: '-' :: digits)

inductive WritesNumber : NumberLiteral → List Char → Prop
  | parts {negative : Bool} {whole fractionText exponentText : List Char}
      {fraction : Option (List Char)}
      {exponent : Option (Bool × List Char)} :
      IsWhole whole → WritesFraction fraction fractionText →
      WritesExponent exponent exponentText →
      WritesNumber ⟨negative, whole, fraction, exponent⟩
        ((if negative then ['-'] else []) ++
          (whole ++ (fractionText ++ exponentText)))

/-! ## Documents -/

/-- What is written between two brackets: items or members, from the first one
or from the comma in front of further ones. -/
inductive Part where
  | document (written : Document)
  | items (written : List Document)
  | moreItems (written : List Document)
  | members (written : List (String × Document))
  | moreMembers (written : List (String × Document))

inductive Writes : Part → List Char → Prop
  | null : Writes (.document .null) ['n', 'u', 'l', 'l']
  | true : Writes (.document (.boolean true)) ['t', 'r', 'u', 'e']
  | false : Writes (.document (.boolean false)) ['f', 'a', 'l', 's', 'e']
  | number {literal : NumberLiteral} {text : List Char} :
      WritesNumber literal text → Writes (.document (.number literal)) text
  | text {characters text : List Char} :
      WritesText characters text →
      Writes (.document (.text (String.ofList characters)))
        ('"' :: (text ++ ['"']))
  | list {items : List Document} {text : List Char} :
      Writes (.items items) text →
      Writes (.document (.list items)) ('[' :: (text ++ [']']))
  | object {members : List (String × Document)} {text : List Char} :
      Writes (.members members) text →
      Writes (.document (.object members)) ('\x7b' :: (text ++ ['\x7d']))
  | noItems {blanks : List Char} :
      Blanks blanks → Writes (.items []) blanks
  | item {item : Document} {rest : List Document}
      {before text after further : List Char} :
      Blanks before → Writes (.document item) text → Blanks after →
      Writes (.moreItems rest) further →
      Writes (.items (item :: rest)) (before ++ (text ++ (after ++ further)))
  | noMoreItems : Writes (.moreItems []) []
  | moreItems {next : Document} {rest : List Document}
      {text : List Char} :
      Writes (.items (next :: rest)) text →
      Writes (.moreItems (next :: rest)) (',' :: text)
  | noMembers {blanks : List Char} :
      Blanks blanks → Writes (.members []) blanks
  | member {name : List Char} {value : Document}
      {rest : List (String × Document)}
      {before nameText beforeColon afterColon text after further :
        List Char} :
      Blanks before → WritesText name nameText → Blanks beforeColon →
      Blanks afterColon → Writes (.document value) text → Blanks after →
      Writes (.moreMembers rest) further →
      Writes (.members ((String.ofList name, value) :: rest))
        (before ++ '"' :: (nameText ++ '"' :: (beforeColon ++ ':' ::
          (afterColon ++ (text ++ (after ++ further))))))
  | noMoreMembers : Writes (.moreMembers []) []
  | moreMembers {next : String × Document}
      {rest : List (String × Document)} {text : List Char} :
      Writes (.members (next :: rest)) text →
      Writes (.moreMembers (next :: rest)) (',' :: text)

/-- The text writes the document, with blanks around it. -/
def WritesDocument (document : Document) (text : List Char) : Prop :=
  ∃ before written after,
    text = before ++ (written ++ after) ∧ Blanks before ∧
      Writes (.document document) written ∧ Blanks after

/-! ## Where a number ends -/

/-- No number goes on here. -/
def EndsNumber (text : List Char) : Prop :=
  ∀ character ∈ text.head?,
    isDigit character = false ∧ character ≠ '.' ∧ character ≠ 'e' ∧
      character ≠ 'E'

theorem blanks_nil : Blanks [] := by
  intro character member
  cases member

theorem endsNumber_nil : EndsNumber [] := by
  intro character member
  cases member

theorem endsNumber_comma (text : List Char) : EndsNumber (',' :: text) := by
  rintro character ⟨rfl⟩
  decide

theorem endsNumber_bracket (text : List Char) :
    EndsNumber (']' :: text) := by
  rintro character ⟨rfl⟩
  decide

theorem endsNumber_brace (text : List Char) :
    EndsNumber ('\x7d' :: text) := by
  rintro character ⟨rfl⟩
  decide

theorem endsNumber_append {blanks text : List Char} (blank : Blanks blanks)
    (ends : EndsNumber text) : EndsNumber (blanks ++ text) := by
  cases blanks with
  | nil => exact ends
  | cons head tail =>
      rintro character ⟨rfl⟩
      rcases blank head List.mem_cons_self with rfl | rfl | rfl | rfl <;>
        decide

theorem endsNumber_moreItems {items : List Document} {text : List Char}
    (written : Writes (.moreItems items) text) (rest : List Char) :
    EndsNumber (text ++ ']' :: rest) := by
  cases written with
  | noMoreItems => exact endsNumber_bracket rest
  | moreItems _ => exact endsNumber_comma _

theorem endsNumber_moreMembers {members : List (String × Document)}
    {text : List Char} (written : Writes (.moreMembers members) text)
    (rest : List Char) : EndsNumber (text ++ '\x7d' :: rest) := by
  cases written with
  | noMoreMembers => exact endsNumber_brace rest
  | moreMembers _ => exact endsNumber_comma _

/-! ## How documents begin -/

/-- The document begins with this character. -/
def Document.Begins (head : Char) : Document → Prop
  | .null => head = 'n'
  | .boolean true => head = 't'
  | .boolean false => head = 'f'
  | .number _ => head = '-' ∨ isDigit head = true
  | .text _ => head = '"'
  | .list _ => head = '['
  | .object _ => head = '\x7b'

theorem WritesNumber.exists_cons {literal : NumberLiteral}
    {text : List Char} (written : WritesNumber literal text) :
    ∃ head tail, text = head :: tail ∧
      (head = '-' ∨ isDigit head = true) := by
  obtain @⟨negative, whole, fractionText, exponentText, _, _, isWhole, _,
    _⟩ := written
  cases negative with
  | true => exact ⟨'-', _, rfl, Or.inl rfl⟩
  | false =>
      obtain ⟨⟨filled, digits⟩, _⟩ := isWhole
      cases whole with
      | nil => exact absurd rfl filled
      | cons head tail =>
          exact ⟨head, _, rfl, Or.inr (digits head List.mem_cons_self)⟩

theorem Writes.exists_cons {document : Document} {text : List Char}
    (written : Writes (.document document) text) :
    ∃ head tail, text = head :: tail ∧ document.Begins head := by
  cases written with
  | number isNumber => exact isNumber.exists_cons
  | null | true | false | text _ | list _ | object _ =>
      exact ⟨_, _, rfl, rfl⟩

/-! Each kind of document begins with a character of its own. -/

section Begins

variable {document : Document}

theorem Document.Begins.exists_number {head : Char}
    (begins : document.Begins head)
    (number : head = '-' ∨ isDigit head = true) :
    ∃ literal, document = .number literal := by
  cases document with
  | number literal => exact ⟨literal, rfl⟩
  | boolean value =>
      cases value <;>
        · obtain rfl : head = _ := begins
          exact absurd number (by decide)
  | null | text _ | list _ | object _ =>
      obtain rfl : head = _ := begins
      exact absurd number (by decide)

theorem Document.Begins.exists_text (begins : document.Begins '"') :
    ∃ value, document = .text value := by
  cases document with
  | text value => exact ⟨value, rfl⟩
  | boolean value => cases value <;> simp [Document.Begins] at begins
  | null | number _ | list _ | object _ =>
      simp [Document.Begins, isDigit] at begins

theorem Document.Begins.exists_list (begins : document.Begins '[') :
    ∃ items, document = .list items := by
  cases document with
  | list items => exact ⟨items, rfl⟩
  | boolean value => cases value <;> simp [Document.Begins] at begins
  | null | number _ | text _ | object _ =>
      simp [Document.Begins, isDigit] at begins

theorem Document.Begins.exists_object (begins : document.Begins '\x7b') :
    ∃ members, document = .object members := by
  cases document with
  | object members => exact ⟨members, rfl⟩
  | boolean value => cases value <;> simp [Document.Begins] at begins
  | null | number _ | text _ | list _ =>
      simp [Document.Begins, isDigit] at begins

theorem Document.not_begins_bracket : ¬document.Begins ']' := by
  cases document with
  | boolean value => cases value <;> simp [Document.Begins]
  | null | number _ | text _ | list _ | object _ =>
      simp [Document.Begins, isDigit]

end Begins

theorem Writes.length_pos {document : Document} {text : List Char}
    (written : Writes (.document document) text) : 0 < text.length := by
  obtain ⟨head, tail, rfl, _⟩ := written.exists_cons
  exact Nat.succ_pos tail.length

end TemplateLint.Json
