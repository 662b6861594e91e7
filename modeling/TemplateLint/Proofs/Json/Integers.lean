import TemplateLint.Json.Value
import TemplateLint.Proofs.Json.Reading

/-!
# Integers as they are written

The text of an integer is a number of the grammar, without fraction and
exponent, and an integer of 64 bits is understood as itself.
-/

namespace TemplateLint.Json

/-! ## Digits -/

theorem head?_toDigits_ne_zero {number : Nat} (positive : 0 < number) :
    (Nat.toDigits 10 number).head? ≠ some '0' := by
  induction number using Nat.strongRecOn with
  | ind number inductionHypothesis =>
      by_cases small : number < 10
      · have single : ∀ digit < 10, 0 < digit →
            [Nat.digitChar digit].head? ≠ some '0' := by
          decide
        rw [Nat.toDigits_of_lt_base small]
        exact single number small positive
      · have split := Nat.toDigits_append_toDigits (b := 10)
          (d := number % 10) (by decide) (show 0 < number / 10 by omega)
          (Nat.mod_lt _ (by decide))
        rw [Nat.div_add_mod] at split
        rw [← split, List.head?_append_of_ne_nil _ Nat.toDigits_ne_nil]
        exact inductionHypothesis _ (by omega) (by omega)

@[simp]
theorem digitsValue_toDigits (number : Nat) :
    digitsValue (Nat.toDigits 10 number) = number := by
  have read := @Nat.ofDigitChars_ten_toDigits number
  have zero : '0'.toNat = 0x30 := rfl
  simpa only [Nat.ofDigitChars, digitsValue, digitValue, Nat.mul_comm, zero]
    using read

theorem isDigit_of_mem_toDigits {character : Char} {number : Nat}
    (member : character ∈ Nat.toDigits 10 number) :
    isDigit character = true := by
  have digit := Nat.isDigit_of_mem_toDigits (by decide) (by decide) member
  simpa [Char.isDigit, isDigit, Char.le_def] using digit

theorem isWhole_toDigits (number : Nat) :
    IsWhole (Nat.toDigits 10 number) := by
  refine
    ⟨⟨Nat.toDigits_ne_nil, fun _ => isDigit_of_mem_toDigits⟩, ?_⟩
  intro leadingZero
  by_cases positive : 0 < number
  · exact absurd leadingZero (head?_toDigits_ne_zero positive)
  · obtain rfl : number = 0 := by omega
    rfl

/-! ## Integers -/

/-- The integer as a number literal. -/
def integerLiteral (value : Int) : NumberLiteral where
  negative := value < 0
  whole := Nat.toDigits 10 value.natAbs
  fraction := none
  exponent := none

/-- The integer fits into 64 bits, with a sign only if it is negative. -/
def IsWide (value : Int) : Prop :=
  -(highestBit64 : Int) ≤ value ∧ value ≤ greatestWord64

theorem integerText_eq (value : Int) :
    integerText value =
      (if value < 0 then ['-'] else []) ++
        Nat.toDigits 10 value.natAbs := by
  cases value with
  | ofNat value => simp [integerText]
  | negSucc value => simp [integerText, Int.negSucc_lt_zero]

theorem writesNumber_integerText (value : Int) :
    WritesNumber (integerLiteral value) (integerText value) := by
  have written : WritesNumber (integerLiteral value) _ :=
    .parts (isWhole_toDigits value.natAbs) .absent .absent
  simpa [integerText_eq] using written

theorem toFound_integerLiteral {value : Int} (wide : IsWide value) :
    (integerLiteral value).toFound = .ok (.integer value) := by
  obtain ⟨above, below⟩ := wide
  have magnitude := digitsValue_toDigits value.natAbs
  by_cases negative : value < 0
  · have positive : 0 < value.natAbs := by omega
    have fits : value.natAbs ≤ highestBit64 := by omega
    have same : -(value.natAbs : Int) = value := by omega
    simp only [NumberLiteral.toFound, integerLiteral, magnitude, negative,
      positive, fits, same, decide_true, Option.isNone_none, Bool.and_self,
      if_true]
  · have fits : value.natAbs ≤ greatestWord64 := by omega
    have same : (value.natAbs : Int) = value := by omega
    simp only [NumberLiteral.toFound, integerLiteral, magnitude, negative,
      fits, same, decide_true, decide_false, Option.isNone_none,
      Bool.and_self, if_true, if_false, Bool.false_eq_true]

/-- An integer of 64 bits is read as itself, up to where it ends. -/
theorem readNumber_integerText {value : Int} (wide : IsWide value)
    {rest : List Char} (ends : EndsNumber rest) :
    readNumber (integerText value ++ rest) = .ok (.integer value, rest) :=
  (readNumber_append (writesNumber_integerText value) ends).mpr
    ⟨toFound_integerLiteral wide, rfl⟩

end TemplateLint.Json
