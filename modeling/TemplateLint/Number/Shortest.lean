import TemplateLint.Number.Binary64

/-!
# The shortest decimal of a double

Among the decimals that round to a double, the text of the double is one with
the fewest digits, and of those the nearest.  The search starts with a coarse
decimal grid and refines it until a neighbour of the double lies within the
interval of numbers that round to it.
-/

namespace TemplateLint.Number

/-- `digits * 10 ^ exponent`. -/
structure Decimal where
  digits : Nat
  exponent : Int
  deriving DecidableEq, Repr

/-- The numbers that round to a positive double, as numerators over one common
denominator.  The ends belong to it iff the significand is even. -/
structure RoundingInterval where
  lower : Nat
  value : Nat
  upper : Nat
  denominator : Nat
  closed : Bool
  deriving DecidableEq, Repr

namespace RoundingInterval

/-- The interval around a double.  Below a power of two the next double is
half as far away as above it. -/
def around (number : Binary64) : RoundingInterval :=
  let below :=
    if number.significand = leastWide ∧
        Binary64.leastExponent < number.exponent then 1
    else 2
  let closed := number.significand % 2 == 0
  match number.exponent with
  | .ofNat power =>
      ⟨(4 * number.significand - below) <<< power,
        (4 * number.significand) <<< power,
        (4 * number.significand + 2) <<< power, 4, closed⟩
  | .negSucc power =>
      ⟨4 * number.significand - below, 4 * number.significand,
        4 * number.significand + 2, 4 <<< (power + 1), closed⟩

/-- The grid point `digits * 10 ^ exponent` lies in the interval. -/
def holds (interval : RoundingInterval) (point : Decimal) : Bool :=
  let scaled : Nat × Nat :=
    match point.exponent with
    | .ofNat power =>
        (point.digits * powerOfTen power * interval.denominator, 1)
    | .negSucc power =>
        (point.digits * interval.denominator, powerOfTen (power + 1))
  if interval.closed then
    interval.lower * scaled.2 ≤ scaled.1 &&
      scaled.1 ≤ interval.upper * scaled.2
  else
    interval.lower * scaled.2 < scaled.1 &&
      scaled.1 < interval.upper * scaled.2

/-- The value divided by `10 ^ exponent`, as a quotient. -/
def scaledValue (interval : RoundingInterval) (exponent : Int) : Nat × Nat :=
  match exponent with
  | .ofNat power =>
      (interval.value, interval.denominator * powerOfTen power)
  | .negSucc power =>
      (interval.value * powerOfTen (power + 1), interval.denominator)

/-- The neighbour of the value on the grid of multiples of `10 ^ exponent`
that lies in the interval; of two the nearer, of two equally near the even
one. -/
def gridPoint? (interval : RoundingInterval) (exponent : Int) :
    Option Decimal :=
  let scaled := interval.scaledValue exponent
  let floor : Decimal := ⟨scaled.1 / scaled.2, exponent⟩
  let ceiling : Decimal := ⟨scaled.1 / scaled.2 + 1, exponent⟩
  let nearest : Decimal :=
    ⟨Binary64.roundQuotient scaled.1 scaled.2, exponent⟩
  match interval.holds floor && floor.digits != 0, interval.holds ceiling with
  | true, true => some nearest
  | true, false => some floor
  | false, true => some ceiling
  | false, false => none

/-- Refine the grid step by step until it meets the interval. -/
def search (interval : RoundingInterval) : Nat → Int → Decimal
  | 0, exponent => ⟨(interval.scaledValue exponent).1 /
      (interval.scaledValue exponent).2, exponent⟩
  | steps + 1, exponent =>
      match interval.gridPoint? exponent with
      | some point => point
      | none => interval.search steps (exponent - 1)

end RoundingInterval

/-- An exponent of ten above the magnitude of a positive double. -/
def decimalBound (number : Binary64) : Int :=
  let quotient := number.toQuotient
  if quotient.1 < quotient.2 then
    1 - ((Nat.toDigits 10 (quotient.2 / quotient.1)).length : Int)
  else ((Nat.toDigits 10 (quotient.1 / quotient.2)).length : Int)

/-- The shortest decimal that rounds to the magnitude of a nonzero double.
Seventeen digits always suffice. -/
def Binary64.shortest (number : Binary64) : Decimal :=
  (RoundingInterval.around number).search 20 (decimalBound number + 1)

/-! ## Text -/

/-- Where the notation with an exponent begins. -/
structure DecimalNotation where
  /-- The greatest number of digits before the point without an exponent. -/
  mostBefore : Int
  /-- The greatest number of zeros directly after the point. -/
  mostZeros : Int
  deriving DecidableEq, Repr

/-- Numbers from `1e-5` up to below `1e16` are written without an
exponent. -/
def documentNotation : DecimalNotation := ⟨16, 4⟩

/-- The text of a positive decimal.  Without an exponent there is at least one
digit on each side of the point; with one, its sign is always written. -/
def Decimal.render (style : DecimalNotation) (decimal : Decimal) : String :=
  let digits := Nat.toDigits 10 decimal.digits
  let count : Int := digits.length
  let point : Int := count + decimal.exponent
  if 0 < point ∧ point ≤ style.mostBefore then
    if 0 ≤ decimal.exponent then
      String.ofList
        (digits ++ List.replicate decimal.exponent.toNat '0' ++ ['.', '0'])
    else
      String.ofList
        (digits.take point.toNat ++ '.' :: digits.drop point.toNat)
  else if -style.mostZeros ≤ point ∧ point ≤ 0 then
    String.ofList
      ('0' :: '.' :: (List.replicate (-point).toNat '0' ++ digits))
  else
    let exponent := point - 1
    let leading :=
      match digits with
      | first :: second :: rest => first :: '.' :: second :: rest
      | short => short
    let sign := if exponent < 0 then '-' else '+'
    String.ofList
      (leading ++ 'e' :: sign :: Nat.toDigits 10 exponent.natAbs)

/-- The text of a double. -/
def Binary64.render (number : Binary64) : String :=
  let magnitude :=
    if number.isZero then "0.0"
    else number.shortest.render documentNotation
  if number.negative then "-" ++ magnitude else magnitude

end TemplateLint.Number
