/-!
# Decimals and binary numbers

Positive numbers in two forms, `digits · 10 ^ exponent` and `mantissa · 2 ^ exponent`, and the
exact fractions by which they are compared. A binary number has at most 53 binary digits, and
its exponent lies between two bounds.
-/

namespace Shorthand

/-- A decimal `digits · 10 ^ exponent`. -/
structure Decimal where
  digits : Nat
  exponent : Int
deriving DecidableEq, Repr

/-- A binary number `mantissa · 2 ^ exponent`. -/
structure Binary where
  mantissa : Nat
  exponent : Int
deriving DecidableEq, Repr

/-! ## Fractions -/

/-- A numerator and a denominator that is not zero. -/
abbrev Fraction := Nat × Nat

namespace Fraction

/-- The fraction `count · 2 ^ binary · 10 ^ decimal`. -/
def scaled (count : Nat) (binary decimal : Int) : Fraction :=
  (count * Nat.pow 2 binary.toNat * Nat.pow 10 decimal.toNat,
    Nat.pow 2 (-binary).toNat * Nat.pow 10 (-decimal).toNat)

/-- The greatest whole number that is not above the fraction. -/
def floor (fraction : Fraction) : Nat := fraction.1 / fraction.2

/-- Whether one fraction is at most another. -/
def le (a b : Fraction) : Bool := a.1 * b.2 ≤ b.1 * a.2

/-- Whether one fraction is less than another. -/
def lt (a b : Fraction) : Bool := a.1 * b.2 < b.1 * a.2

end Fraction

/-! ## The range of binary numbers -/

namespace Binary

/-- The least mantissa with 53 binary digits. -/
def leastMantissa : Nat := Nat.pow 2 52

/-- The least exponent. -/
def leastExponent : Int := -1074

/-- The greatest exponent. -/
def greatestExponent : Int := 971

end Binary

namespace Decimal

/-- The decimal in positional notation, without an exponent and without needless zeros. -/
def positional (decimal : Decimal) : String :=
  let digits := (toString decimal.digits).toList
  if 0 ≤ decimal.exponent then
    String.ofList (digits ++ List.replicate decimal.exponent.toNat '0')
  else
    let places := (-decimal.exponent).toNat
    let padded := List.replicate (places + 1 - digits.length) '0' ++ digits
    String.ofList (padded.take (padded.length - places) ++ '.' ::
      padded.drop (padded.length - places))

end Decimal

end Shorthand
