import Shorthand.Decimal.Rounding
import Shorthand.Decimal.Shortest
import Shorthand.Toml.Digit
import Shorthand.Toml.Value

/-!
# TOML numbers

Integers in base ten, sixteen, eight and two, which must fit into 64 bits with a sign, and
floating point numbers. A floating point number counts as the number of 53 binary digits next
to it; one that is too large is refused unless it is negative, which makes it negative
infinity.
-/

namespace Shorthand.Toml

/-! ## Signs and whole numbers -/

/-- Whether there is a minus sign; a plus sign may stand instead. -/
def sign : Scan Bool := do
  match ← Scan.optional? (Scan.char '+' <|> Scan.char '-') with
  | some c => pure (c = '-')
  | none => pure false

/-- The digits of a whole number in base ten: a zero alone, or digits that start with none. -/
def wholeDigits : Scan (List Char) := do
  let first ← digit 10
  if first = '0' then pure ['0']
  else do
    let rest ← moreDigits 10
    pure (first :: rest)

/-! ## Integers -/

/-- An integer that fits into 64 bits with a sign. -/
def fitting (value : Int) : Scan Int :=
  if Int64.minValue.toInt ≤ value ∧ value ≤ Int64.maxValue.toInt then pure value else failure

/-- An integer behind a mark for its base. -/
def markedInteger (mark : Char) (base : Nat) : Scan Int := do
  Scan.word ['0', mark]
  let digits ← digits base
  fitting (numeral base digits)

/-- An integer in base ten. -/
def decimalInteger : Scan Int := do
  let negative ← sign
  let digits ← wholeDigits
  let value : Int := numeral 10 digits
  fitting (if negative then -value else value)

/-- An integer. -/
def integer : Scan Int :=
  markedInteger 'x' 16 <|> markedInteger 'o' 8 <|> markedInteger 'b' 2 <|> decimalInteger

/-! ## Floating point numbers -/

/-- The floating point number next to a decimal. What is far beyond all of them on either side
is told by its size alone. -/
def nearest (negative : Bool) (decimal : Decimal) : Floating :=
  let size : Int := (toString decimal.digits).length + decimal.exponent
  -- far below half of the least positive number, and far above the greatest one
  if decimal.digits = 0 ∨ size < -330 then .finite negative ⟨0, 0⟩
  else if size > 310 then .infinite negative
  else
    let number := decimal.nearest
    if number.exponent > Binary.greatestExponent then .infinite negative
    else .finite negative (number.shortest?.getD ⟨0, 0⟩)

/-- The fraction of a number: a point and digits. -/
def fraction : Scan (List Char) := do
  discard (Scan.char '.')
  digits 10

/-- The exponent of a number. -/
def exponent : Scan Int := do
  discard (Scan.char 'e' <|> Scan.char 'E')
  let negative ← sign
  let digits ← digits 10
  let value : Int := numeral 10 digits
  pure (if negative then -value else value)

/-- A finite number with a fraction, an exponent or both. -/
def finiteFloating : Scan Floating := do
  let negative ← sign
  let whole ← wholeDigits
  let fraction? ← Scan.optional? fraction
  let exponent? ← Scan.optional? exponent
  if fraction?.isNone ∧ exponent?.isNone then failure
  else do
    let places := fraction?.getD []
    let number := nearest negative
      ⟨numeral 10 (whole ++ places), exponent?.getD 0 - places.length⟩
    match number with
    | .infinite false => failure
    | _ => pure number

/-- Infinity, or no number at all. -/
def specialFloating : Scan Floating := do
  let negative ← sign
  (do Scan.word ['i', 'n', 'f']
      pure (.infinite negative)) <|>
    (do Scan.word ['n', 'a', 'n']
        pure .notANumber)

/-- A floating point number. -/
def floating : Scan Floating := finiteFloating <|> specialFloating

/-- A floating point number in positional notation. -/
def Floating.text : Floating → String
  | .finite negative decimal => (if negative then "-" else "") ++ decimal.positional
  | .infinite negative => (if negative then "-" else "") ++ "inf"
  | .notANumber => "NaN"

/-- A floating point number in positional notation, with a fraction even when it is whole. -/
def Floating.pointedText : Floating → String
  | .finite negative decimal =>
    let text := (Floating.finite negative decimal).text
    if text.toList.contains '.' then text else text ++ ".0"
  | other => other.text

end Shorthand.Toml
