/-!
# Double precision numbers

A finite double is a sign, a significand below `2 ^ 53` and an exponent of
two.  Rounding is done on natural numbers: a quotient goes to the nearest
double, a tie to the even significand.
-/

namespace TemplateLint.Number

/-- The least number of 53 bits. -/
def leastWide : Nat := 1 <<< 52

/-- A power of ten. -/
def powerOfTen (exponent : Nat) : Nat := Nat.pow 10 exponent

/-- The finite double `± significand * 2 ^ exponent`.  A canonical one has the
exponent `-1074` or a significand of 53 bits. -/
structure Binary64 where
  negative : Bool
  significand : Nat
  exponent : Int
  deriving DecidableEq, Repr

namespace Binary64

/-- The least exponent of a double. -/
def leastExponent : Int := -1074

/-- The greatest exponent of a double. -/
def greatestExponent : Int := 971

def zero (negative : Bool) : Binary64 :=
  ⟨negative, 0, leastExponent⟩

def isZero (number : Binary64) : Bool :=
  number.significand == 0

/-! ## Rounding -/

/-- Numerator and denominator of `numerator / denominator / 2 ^ exponent`. -/
def scaleDown (numerator denominator : Nat) : Int → Nat × Nat
  | .ofNat power => (numerator, denominator <<< power)
  | .negSucc power => (numerator <<< (power + 1), denominator)

/-- The natural number nearest to a quotient; a half goes to the even one. -/
def roundQuotient (numerator denominator : Nat) : Nat :=
  let quotient := numerator / denominator
  let remainder := numerator % denominator
  if 2 * remainder < denominator then quotient
  else if denominator < 2 * remainder then quotient + 1
  else if quotient % 2 = 0 then quotient
  else quotient + 1

/-- The exponent at which the quotient has 53 bits before the point, or the
least exponent if that is greater. -/
def exponentFor (numerator denominator : Nat) : Int :=
  let estimate : Int :=
    max leastExponent
      ((numerator.log2 : Int) - (denominator.log2 : Int) - 52)
  let scaled := scaleDown numerator denominator estimate
  if scaled.1 / scaled.2 < leastWide then max leastExponent (estimate - 1)
  else estimate

/-- The double nearest to `± numerator / denominator`; none if it is too
large. -/
def ofQuotient
    (negative : Bool) (numerator denominator : Nat) : Option Binary64 :=
  if numerator = 0 then some (zero negative)
  else
    let exponent := exponentFor numerator denominator
    let scaled := scaleDown numerator denominator exponent
    let rounded := roundQuotient scaled.1 scaled.2
    let result : Binary64 :=
      if rounded = 2 * leastWide then ⟨negative, leastWide, exponent + 1⟩
      else ⟨negative, rounded, exponent⟩
    if greatestExponent < result.exponent then none else some result

/-- The double nearest to `± digits * 10 ^ exponent`; none if it is too
large.  Exponents far outside the range of doubles are decided by the number
of digits alone. -/
def ofDecimal
    (negative : Bool) (digits : Nat) (exponent : Int) : Option Binary64 :=
  if digits = 0 then some (zero negative)
  else
    let magnitude : Int := ((Nat.toDigits 10 digits).length : Int) + exponent
    if 400 < magnitude then none
    else if magnitude < -400 then some (zero negative)
    else
      match exponent with
      | .ofNat power => ofQuotient negative (digits * powerOfTen power) 1
      | .negSucc power => ofQuotient negative digits (powerOfTen (power + 1))

/-! ## Arithmetic -/

/-- The magnitude as a quotient of natural numbers. -/
def toQuotient (number : Binary64) : Nat × Nat :=
  match number.exponent with
  | .ofNat power => (number.significand <<< power, 1)
  | .negSucc power => (number.significand, 1 <<< (power + 1))

/-- The rounded product; none if it is too large. -/
def times (left right : Binary64) : Option Binary64 :=
  let first := left.toQuotient
  let second := right.toQuotient
  ofQuotient (left.negative != right.negative)
    (first.1 * second.1) (first.2 * second.2)

/-- The rounded quotient; none if it is too large. -/
def dividedBy (left right : Binary64) : Option Binary64 :=
  let first := left.toQuotient
  let second := right.toQuotient
  ofQuotient (left.negative != right.negative)
    (first.1 * second.2) (first.2 * second.1)

/-! ## Comparison with integers -/

/-- The number has no fractional part. -/
def isIntegral (number : Binary64) : Bool :=
  let quotient := number.toQuotient
  quotient.1 % quotient.2 == 0

/-- The number is less than one. -/
def isBelowOne (number : Binary64) : Bool :=
  let quotient := number.toQuotient
  number.negative || quotient.1 < quotient.2

@[simp]
theorem ofQuotient_zero (negative : Bool) (denominator : Nat) :
    ofQuotient negative 0 denominator = some (zero negative) := rfl

@[simp]
theorem ofDecimal_zero (negative : Bool) (exponent : Int) :
    ofDecimal negative 0 exponent = some (zero negative) := rfl

end Binary64

end TemplateLint.Number
