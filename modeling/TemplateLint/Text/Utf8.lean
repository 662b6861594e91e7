/-!
# Bytes as text

A text is encoded character by character.  Strict decoding answers only for well-formed UTF-8.  Lenient decoding always
answers: each maximal ill-formed part of the bytes becomes one replacement
character.  Lenient decoding is an automaton that reads byte by byte; a byte
that cannot continue the sequence under way ends that sequence and is then
read afresh.
-/

namespace TemplateLint.Text

/-- The bytes of some characters. -/
def encoded (text : List Char) : List UInt8 :=
  text.flatMap String.utf8EncodeChar

/-- The text that the bytes encode, if they are well-formed UTF-8. -/
def decodeStrict (bytes : ByteArray) : Option String :=
  String.fromUTF8? bytes

/-- A sequence that has begun: how many bytes are still needed, the range that
the next one must lie in, and the bits read so far. -/
structure OpenSequence where
  needed : Nat
  lower : Nat
  upper : Nat
  bits : Nat
  deriving DecidableEq, Repr

/-- What a byte means at the start of a sequence. -/
inductive LeadByte where
  | complete (character : Char)
  | opens (sequence : OpenSequence)
  | illFormed
  deriving DecidableEq, Repr

/-- The reading of a first byte.  The ranges for the second byte keep out
overlong forms, surrogates and points beyond the last one. -/
def leadByte (byte : UInt8) : LeadByte :=
  let value := byte.toNat
  if value < 0x80 then .complete (Char.ofNat value)
  else if value < 0xC2 then .illFormed
  else if value < 0xE0 then .opens ⟨1, 0x80, 0xBF, value - 0xC0⟩
  else if value = 0xE0 then .opens ⟨2, 0xA0, 0xBF, 0⟩
  else if value = 0xED then .opens ⟨2, 0x80, 0x9F, 0xD⟩
  else if value < 0xF0 then .opens ⟨2, 0x80, 0xBF, value - 0xE0⟩
  else if value = 0xF0 then .opens ⟨3, 0x90, 0xBF, 0⟩
  else if value < 0xF4 then .opens ⟨3, 0x80, 0xBF, value - 0xF0⟩
  else if value = 0xF4 then .opens ⟨3, 0x80, 0x8F, 4⟩
  else .illFormed

/-- The character that stands for an ill-formed part. -/
def replacementCharacter : Char := '\uFFFD'

/-- The characters of a byte sequence, given the sequence under way. -/
def decodePieces : Option OpenSequence → List UInt8 → List Char
  | none, [] => []
  | some _, [] => [replacementCharacter]
  | some sequence, byte :: rest =>
      if sequence.lower ≤ byte.toNat ∧ byte.toNat ≤ sequence.upper then
        let bits := sequence.bits * 64 + (byte.toNat - 0x80)
        if sequence.needed ≤ 1 then
          Char.ofNat bits :: decodePieces none rest
        else
          decodePieces (some ⟨sequence.needed - 1, 0x80, 0xBF, bits⟩) rest
      else
        replacementCharacter ::
          match leadByte byte with
          | .complete character => character :: decodePieces none rest
          | .opens next => decodePieces (some next) rest
          | .illFormed => replacementCharacter :: decodePieces none rest
  | none, byte :: rest =>
      match leadByte byte with
      | .complete character => character :: decodePieces none rest
      | .opens next => decodePieces (some next) rest
      | .illFormed => replacementCharacter :: decodePieces none rest

/-- The text of the bytes, with one replacement character for each maximal
ill-formed part. -/
def decodeLenient (bytes : ByteArray) : String :=
  String.ofList (decodePieces none bytes.toList)

@[simp]
theorem decodePieces_none_nil : decodePieces none [] = [] := rfl

/-- A text that ends inside a sequence shows one replacement character. -/
@[simp]
theorem decodePieces_some_nil (sequence : OpenSequence) :
    decodePieces (some sequence) [] = [replacementCharacter] := rfl

end TemplateLint.Text
