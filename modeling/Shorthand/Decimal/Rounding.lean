import Shorthand.Decimal.Basic

/-!
# Rounding decimals

The binary number next to a decimal. The decimal is scaled so that its whole part has 53 binary
digits, or fewer where the exponent would fall below its bound, and rounded once. Everything
before that one rounding is exact.
-/

namespace Shorthand

/-! ## Quotients -/

/-- The whole number next to a quotient; of two that are equally near, the even one. -/
def roundDiv (numerator denominator : Nat) : Nat :=
  let below := numerator / denominator
  let rest := numerator % denominator
  if 2 * rest < denominator ∨ (2 * rest = denominator ∧ below % 2 = 0) then below else below + 1

/-! ## Decimals -/

namespace Decimal

/-- The decimal as a multiple of a power of two. -/
def inUnits (decimal : Decimal) (exponent : Int) : Fraction :=
  .scaled decimal.digits (-exponent) decimal.exponent

/-- The exponent of the binary number next to the decimal: with it the whole part has 53 binary
digits, unless it is the least exponent. -/
def binaryExponent (decimal : Decimal) : Int :=
  let value := decimal.inUnits 0
  -- the lengths of numerator and denominator tell the length of the quotient up to one
  let guess : Int := (value.1.log2 : Int) - value.2.log2 - 52
  let exponent :=
    if (decimal.inUnits guess).floor < Binary.leastMantissa then guess - 1 else guess
  max exponent Binary.leastExponent

/-- The binary number next to the decimal; of two that are equally near, the one with an even
mantissa. Its exponent has no upper bound. -/
def nearest (decimal : Decimal) : Binary :=
  let exponent := decimal.binaryExponent
  let units := decimal.inUnits exponent
  let mantissa := roundDiv units.1 units.2
  -- rounding up can give one digit more
  if mantissa = 2 * Binary.leastMantissa then ⟨Binary.leastMantissa, exponent + 1⟩
  else ⟨mantissa, exponent⟩

end Decimal

end Shorthand
