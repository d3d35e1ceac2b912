import Shorthand.Decimal.Basic

/-!
# Shortest decimals

The shortest decimal that reads back as a given binary number. A binary number stands for all
reals that round to it; of the decimals with the fewest digits among those reals, the one
nearest to the number is taken, and the larger one on a tie. All arithmetic is exact.
-/

namespace Shorthand.Binary

/-- Whether a decimal rounds to the number. The ends of the interval belong to it when the
mantissa is even; the lower end is nearer when the mantissa is the least with its exponent. -/
def accepts (number : Binary) (decimal : Decimal) : Bool :=
  let value := Fraction.scaled decimal.digits 0 decimal.exponent
  -- below a power of two the numbers stand twice as close
  let lower :=
    if number.mantissa = leastMantissa ∧ number.exponent > leastExponent then
      Fraction.scaled (4 * number.mantissa - 1) (number.exponent - 2) 0
    else Fraction.scaled (2 * number.mantissa - 1) (number.exponent - 1) 0
  let upper := Fraction.scaled (2 * number.mantissa + 1) (number.exponent - 1) 0
  if number.mantissa % 2 = 0 then lower.le value && value.le upper
  else lower.lt value && value.lt upper

/-- The neighbours of the number among the multiples of a power of ten that round to it, the
nearer one first. -/
def candidates (number : Binary) (exponent : Int) : List Decimal :=
  let units := Fraction.scaled number.mantissa number.exponent (-exponent)
  let below := units.floor
  let rest := units.1 % units.2
  -- halfway between the two the larger one comes first
  let order := if 2 * rest < units.2 then [below, below + 1] else [below + 1, below]
  (order.map fun digits => ⟨digits, exponent⟩).filter fun decimal =>
    decimal.digits ≠ 0 && number.accepts decimal

/-- Searches the grids of powers of ten from coarse to fine. -/
def search (number : Binary) : Nat → Int → Option Decimal
  | 0, _ => none
  | steps + 1, exponent =>
    match number.candidates exponent with
    | decimal :: _ => some decimal
    | [] => search number steps (exponent - 1)

/-- The shortest decimal that reads back as the number. The grids from `10 ^ 309` down to
`10 ^ (-324)` are tried; every positive number has a multiple on one of them. -/
def shortest? (number : Binary) : Option Decimal :=
  if number.mantissa = 0 then some ⟨0, 0⟩ else number.search 634 309

end Shorthand.Binary
