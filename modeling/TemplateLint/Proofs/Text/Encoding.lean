import TemplateLint.Text.Utf8

/-!
# The bytes of characters

A character is encoded as a first byte, which says how many bytes follow, and
these with six bits each.  The byte of a single-byte character stands in no
longer sequence, and both ways of decoding undo the encoding.
-/

namespace TemplateLint.Text

/-! ## Sequences -/

/-- The last bytes of the sequence of a code point, with six bits each. -/
def continuation : Nat → Nat → List UInt8
  | 0, _ => []
  | count + 1, point =>
      continuation count (point / 64) ++ [UInt8.ofNat (point % 64 + 0x80)]

/-- The bits of a code point that are left for the first byte. -/
def leadingBits : Nat → Nat → Nat
  | 0, point => point
  | count + 1, point => leadingBits count (point / 64)

/-- How many bytes follow the first one. -/
def continuationCount (point : Nat) : Nat :=
  if point ≤ 0x7f then 0
  else if point ≤ 0x7ff then 1
  else if point ≤ 0xffff then 2
  else 3

/-- The mark of a first byte that so many bytes follow. -/
def leadMark : Nat → Nat
  | 0 => 0
  | 1 => 0xc0
  | 2 => 0xe0
  | _ => 0xf0

/-- The first byte of the sequence of a code point. -/
def leadOf (point : Nat) : Nat :=
  let count := continuationCount point
  leadingBits count point + leadMark count

theorem char_value_lt (character : Char) :
    character.val.toNat < 0x110000 := by
  have valid := character.valid
  simp only [UInt32.isValidChar, Nat.isValidChar] at valid
  omega

theorem utf8EncodeChar_eq (character : Char) :
    String.utf8EncodeChar character =
      UInt8.ofNat (leadOf character.val.toNat) ::
        continuation (continuationCount character.val.toNat)
          character.val.toNat := by
  have bound := char_value_lt character
  unfold String.utf8EncodeChar leadOf continuationCount
  generalize character.val.toNat = point at bound ⊢
  by_cases one : point ≤ 0x7f
  · simp [one, leadingBits, leadMark, continuation]
  · by_cases two : point ≤ 0x7ff
    · have bits : point / 64 % 32 = point / 64 := by omega
      simp [one, two, leadingBits, leadMark, continuation, bits]
    · by_cases three : point ≤ 0xffff
      · have bits : point / 4096 % 16 = point / 4096 := by omega
        simp [one, two, three, leadingBits, leadMark, continuation, bits,
          Nat.div_div_eq_div_mul]
      · have bits : point / 262144 % 8 = point / 262144 := by omega
        simp [one, two, three, leadingBits, leadMark, continuation, bits,
          Nat.div_div_eq_div_mul]

theorem leadOf_cases (point : Nat) :
    (point ≤ 0x7f ∧ continuationCount point = 0 ∧ leadOf point = point) ∨
    (0x7f < point ∧ point ≤ 0x7ff ∧ continuationCount point = 1 ∧
      leadOf point = point / 64 + 0xc0) ∨
    (0x7ff < point ∧ point ≤ 0xffff ∧ continuationCount point = 2 ∧
      leadOf point = point / 64 / 64 + 0xe0) ∨
    (0xffff < point ∧ continuationCount point = 3 ∧
      leadOf point = point / 64 / 64 / 64 + 0xf0) := by
  unfold leadOf continuationCount
  by_cases one : point ≤ 0x7f
  · simp [one, leadingBits, leadMark]
  · by_cases two : point ≤ 0x7ff
    · simp [one, two, leadingBits, leadMark, Nat.lt_of_not_le one]
    · by_cases three : point ≤ 0xffff
      · simp [one, two, three, leadingBits, leadMark,
          Nat.lt_of_not_le two]
      · simp [one, two, three, leadingBits, leadMark,
          Nat.lt_of_not_le three]

theorem leadOf_lt {point : Nat} (bound : point < 0x110000) :
    leadOf point < 256 := by
  have cases := leadOf_cases point
  omega

/-! ## Single bytes -/

/-- Bytes from 0x80 on follow the first byte of a sequence. -/
theorem le_of_mem_continuation {count point : Nat} {byte : UInt8}
    (member : byte ∈ continuation count point) : 0x80 ≤ byte.toNat := by
  induction count generalizing point with
  | zero => cases member
  | succ count inductionHypothesis =>
      rw [continuation, List.mem_append, List.mem_singleton] at member
      rcases member with before | rfl
      · exact inductionHypothesis before
      · rw [UInt8.toNat_ofNat']
        omega

/-- A byte of a single-byte character occurs in no other character. -/
theorem mem_utf8EncodeChar_iff {byte : UInt8} (single : byte.toNat < 0x80)
    (character : Char) :
    byte ∈ String.utf8EncodeChar character ↔
      character.val.toNat = byte.toNat := by
  have bound := leadOf_lt (char_value_lt character)
  have leads := leadOf_cases character.val.toNat
  rw [utf8EncodeChar_eq, List.mem_cons]
  constructor
  · rintro (rfl | behind)
    · rw [UInt8.toNat_ofNat'] at single ⊢
      omega
    · exact absurd (le_of_mem_continuation behind) (by omega)
  · intro same
    left
    rw [← UInt8.toNat_inj, UInt8.toNat_ofNat']
    omega

/-- A single-byte character stands where its byte does. -/
theorem mem_encoded_iff {character : Char} (single : character.toNat < 0x80)
    (text : List Char) :
    UInt8.ofNat character.toNat ∈ encoded text ↔ character ∈ text := by
  have value : (UInt8.ofNat character.toNat).toNat = character.toNat := by
    rw [UInt8.toNat_ofNat']
    omega
  rw [encoded, List.mem_flatMap]
  constructor
  · rintro ⟨other, member, inOther⟩
    have same := (mem_utf8EncodeChar_iff (by omega) other).mp inOther
    rw [value] at same
    rwa [← Char.toNat_inj.mp same]
  · exact fun member => ⟨character, member,
      (mem_utf8EncodeChar_iff (by omega) character).mpr value.symm⟩

theorem encoded_append (front back : List Char) :
    encoded (front ++ back) = encoded front ++ encoded back := by
  simp [encoded]

theorem encoded_ne_nil {text : List Char} (filled : text ≠ []) :
    encoded text ≠ [] := by
  obtain ⟨head, tail, rfl⟩ := List.exists_cons_of_ne_nil filled
  simp [encoded, utf8EncodeChar_eq]

/-! ## Strict decoding -/

theorem decodeStrict_eq_some_iff {bytes : ByteArray} {text : String} :
    decodeStrict bytes = some text ↔ bytes = text.toByteArray := by
  unfold decodeStrict String.fromUTF8?
  constructor
  · intro decoded
    split at decoded
    · rw [← Option.some.inj decoded]
      rfl
    · cases decoded
  · rintro rfl
    rw [dif_pos text.isValidUTF8]
    rfl

theorem decodeStrict_eq_none_iff {bytes : ByteArray} :
    decodeStrict bytes = none ↔ ¬bytes.IsValidUTF8 := by
  simp [decodeStrict, String.fromUTF8?]

theorem toByteArray_encoded (text : List Char) :
    (encoded text).toByteArray = (String.ofList text).toByteArray := by
  rw [String.toByteArray_ofList]
  rfl

theorem decodeStrict_encoded (text : List Char) :
    decodeStrict (encoded text).toByteArray = some (String.ofList text) :=
  decodeStrict_eq_some_iff.mpr (toByteArray_encoded text)

theorem encoded_toList (text : String) :
    encoded text.toList = text.toByteArray.data.toList := by
  rw [encoded, ← String.utf8Encode_toList, List.utf8Encode,
    List.data_toByteArray]

/-! ## Lenient decoding -/

theorem ofNat_val (character : Char) :
    Char.ofNat character.val.toNat = character := by
  rw [Char.ofNat, dif_pos character.valid]
  rfl

/-- The reading of a continuation byte. -/
theorem decodePieces_continuation {needed lower upper bits low : Nat}
    (lowBits : low < 64) (atLeast : lower ≤ low + 0x80)
    (atMost : low + 0x80 ≤ upper) (rest : List UInt8) :
    decodePieces (some ⟨needed, lower, upper, bits⟩)
        (UInt8.ofNat (low + 0x80) :: rest) =
      if needed ≤ 1 then
        Char.ofNat (bits * 64 + low) :: decodePieces none rest
      else
        decodePieces (some ⟨needed - 1, 0x80, 0xBF, bits * 64 + low⟩)
          rest := by
  have value : (UInt8.ofNat (low + 0x80)).toNat = low + 0x80 := by
    rw [UInt8.toNat_ofNat']
    omega
  simp only [decodePieces, value, atLeast, atMost, and_self, if_true,
    Nat.add_sub_cancel]

theorem decodePieces_opens {byte : UInt8} {sequence : OpenSequence}
    (opens : leadByte byte = .opens sequence) (rest : List UInt8) :
    decodePieces none (byte :: rest) = decodePieces (some sequence) rest := by
  rw [decodePieces, opens]

/-- The reading of the first byte of a longer sequence.  The bounds of the
second byte are those that the numbers of characters keep to. -/
theorem exists_leadByte_opens {point : Nat} (bound : point < 0x110000)
    (noSurrogate : point < 0xd800 ∨ 0xdfff < point) (longer : 0x7f < point) :
    ∃ lower upper,
      leadByte (UInt8.ofNat (leadOf point)) =
        .opens ⟨continuationCount point, lower, upper,
          leadingBits (continuationCount point) point⟩ ∧
      let second :=
        leadingBits (continuationCount point - 1) point % 64 + 0x80
      lower ≤ second ∧ second ≤ upper := by
  have value : (UInt8.ofNat (leadOf point)).toNat = leadOf point := by
    rw [UInt8.toNat_ofNat']
    exact Nat.mod_eq_of_lt (leadOf_lt bound)
  unfold leadByte
  rw [value]
  rcases leadOf_cases point with ⟨range, _⟩ | ⟨_, range, count, lead⟩ |
    ⟨above, range, count, lead⟩ | ⟨above, count, lead⟩
  · omega
  · rw [count, lead, if_neg (by omega), if_neg (by omega),
      if_pos (by omega)]
    simp only [leadingBits, Nat.add_sub_cancel]
    exact ⟨_, _, rfl, by omega, by omega⟩
  · rw [count, lead, if_neg (by omega), if_neg (by omega),
      if_neg (by omega)]
    simp only [leadingBits]
    by_cases least : point / 64 / 64 = 0
    · rw [if_pos (by omega), least]
      exact ⟨_, _, rfl, by omega, by omega⟩
    · by_cases beforeSurrogates : point / 64 / 64 = 0xd
      · rw [if_neg (by omega), if_pos (by omega), beforeSurrogates]
        exact ⟨_, _, rfl, by omega, by omega⟩
      · rw [if_neg (by omega), if_neg (by omega), if_pos (by omega),
          Nat.add_sub_cancel]
        exact ⟨_, _, rfl, by omega, by omega⟩
  · rw [count, lead, if_neg (by omega), if_neg (by omega),
      if_neg (by omega), if_neg (by omega), if_neg (by omega),
      if_neg (by omega)]
    simp only [leadingBits]
    by_cases least : point / 64 / 64 / 64 = 0
    · rw [if_pos (by omega), least]
      exact ⟨_, _, rfl, by omega, by omega⟩
    · by_cases greatest : point / 64 / 64 / 64 = 4
      · rw [if_neg (by omega), if_neg (by omega), if_pos (by omega), greatest]
        exact ⟨_, _, rfl, by omega, by omega⟩
      · rw [if_neg (by omega), if_pos (by omega), Nat.add_sub_cancel]
        exact ⟨_, _, rfl, by omega, by omega⟩

/-- The sequence of a code point is decoded as its character. -/
theorem decodePieces_sequence {point : Nat} (bound : point < 0x110000)
    (noSurrogate : point < 0xd800 ∨ 0xdfff < point) (rest : List UInt8) :
    decodePieces none (UInt8.ofNat (leadOf point) ::
        (continuation (continuationCount point) point ++ rest)) =
      Char.ofNat point :: decodePieces none rest := by
  by_cases single : point ≤ 0x7f
  · have value : (UInt8.ofNat point).toNat = point := by
      rw [UInt8.toNat_ofNat']
      omega
    have complete : leadByte (UInt8.ofNat point) =
        .complete (Char.ofNat point) := by
      rw [leadByte, value, if_pos (by omega)]
    have count : continuationCount point = 0 := if_pos single
    have lead : leadOf point = point := by
      simp [leadOf, count, leadingBits, leadMark]
    simp [lead, count, continuation, decodePieces, complete]
  · obtain ⟨lower, upper, opens, atLeast, atMost⟩ :=
      exists_leadByte_opens bound noSurrogate (Nat.not_le.mp single)
    rw [decodePieces_opens opens]
    have last : point / 64 * 64 + point % 64 = point := Nat.div_add_mod' _ _
    have lastButOne : point / 64 / 64 * 64 + point / 64 % 64 = point / 64 :=
      Nat.div_add_mod' _ _
    have lastButTwo : point / 64 / 64 / 64 * 64 + point / 64 / 64 % 64 =
        point / 64 / 64 := Nat.div_add_mod' _ _
    -- as many bytes follow as the first one says
    rcases leadOf_cases point with ⟨range, _⟩ | ⟨_, _, count, _⟩ |
      ⟨_, _, count, _⟩ | ⟨_, count, _⟩
    · exact absurd range single
    all_goals
      rw [count] at atLeast atMost ⊢
      simp only [Nat.add_one_sub_one, Nat.sub_self, leadingBits]
        at atLeast atMost ⊢
      simp only [continuation, List.nil_append, List.cons_append]
    · rw [decodePieces_continuation (Nat.mod_lt _ (by decide)) atLeast atMost,
        if_pos (by decide), last]
    · rw [decodePieces_continuation (Nat.mod_lt _ (by decide)) atLeast atMost,
        if_neg (by decide),
        decodePieces_continuation (Nat.mod_lt _ (by decide)) (by omega)
          (by omega), if_pos (by decide), lastButOne, last]
    · rw [decodePieces_continuation (Nat.mod_lt _ (by decide)) atLeast atMost,
        if_neg (by decide),
        decodePieces_continuation (Nat.mod_lt _ (by decide)) (by omega)
          (by omega), if_neg (by decide),
        decodePieces_continuation (Nat.mod_lt _ (by decide)) (by omega)
          (by omega), if_pos (by decide), lastButTwo, lastButOne, last]

/-- Decoding begins with the character that stands in front. -/
theorem decodePieces_utf8EncodeChar (character : Char) (rest : List UInt8) :
    decodePieces none (String.utf8EncodeChar character ++ rest) =
      character :: decodePieces none rest := by
  have noSurrogate : character.val.toNat < 0xd800 ∨
      0xdfff < character.val.toNat := by
    have valid := character.valid
    simp only [UInt32.isValidChar, Nat.isValidChar] at valid
    omega
  rw [utf8EncodeChar_eq, List.cons_append,
    decodePieces_sequence (char_value_lt character) noSurrogate, ofNat_val]

theorem decodePieces_encoded (text : List Char) :
    decodePieces none (encoded text) = text := by
  induction text with
  | nil => rfl
  | cons head tail inductionHypothesis =>
      rw [encoded, List.flatMap_cons, decodePieces_utf8EncodeChar]
      exact congrArg _ inductionHypothesis

end TemplateLint.Text
