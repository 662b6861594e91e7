/-!
# Quoted text in JSON

A text is written between double quotes.  The quote, the backslash and the
control characters are escaped, five of the control characters by a letter;
every other character stands as it is.
-/

namespace TemplateLint.Json

/-- One of the sixteen hexadecimal digits, in lower case. -/
def hexDigit (value : Nat) : Char :=
  Char.ofNat (if value < 10 then 0x30 + value else 0x57 + value)

/-- One character inside a quoted text. -/
def escapeCharacter (character : Char) : List Char :=
  if character = '"' then ['\\', '"']
  else if character = '\\' then ['\\', '\\']
  else if character.toNat = 8 then ['\\', 'b']
  else if character.toNat = 12 then ['\\', 'f']
  else if character = '\n' then ['\\', 'n']
  else if character = '\r' then ['\\', 'r']
  else if character = '\t' then ['\\', 't']
  else if character.toNat < 0x20 then
    ['\\', 'u', '0', '0', hexDigit (character.toNat / 16),
      hexDigit (character.toNat % 16)]
  else [character]

/-- The inside of a quoted text. -/
def escapeAll (text : List Char) : List Char :=
  text.flatMap escapeCharacter

/-- A text with its quotes. -/
def quote (text : String) : List Char :=
  '"' :: (escapeAll text.toList ++ ['"'])

@[simp]
theorem escapeAll_nil : escapeAll [] = [] := rfl

@[simp]
theorem escapeAll_cons (head : Char) (tail : List Char) :
    escapeAll (head :: tail) = escapeCharacter head ++ escapeAll tail := rfl

end TemplateLint.Json
