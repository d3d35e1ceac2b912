import Shorthand.Toml.Scan

/-!
# TOML digits

Digits in base ten, sixteen, eight and two, one by one, so many of them, or as a run. In a run
an underscore may stand between two digits.
-/

namespace Shorthand.Toml

/-- The value of a digit in a base up to sixteen. -/
def digitValue? (base : Nat) (c : Char) : Option Nat :=
  let value :=
    if '0' ≤ c ∧ c ≤ '9' then c.toNat - '0'.toNat
    else if 'a' ≤ c ∧ c ≤ 'f' then c.toNat - 'a'.toNat + 10
    else if 'A' ≤ c ∧ c ≤ 'F' then c.toNat - 'A'.toNat + 10
    else base
  if value < base then some value else none

/-- The number that digits stand for. -/
def numeral (base : Nat) (digits : List Char) : Nat :=
  digits.foldl (fun value c => base * value + (digitValue? base c).getD 0) 0

/-- One digit. -/
def digit (base : Nat) : Scan Char := Scan.charWhere fun c => (digitValue? base c).isSome

/-- Exactly so many digits. -/
def digitsOf (base : Nat) : Nat → Scan (List Char)
  | 0 => pure []
  | count + 1 => do
    let first ← digit base
    let rest ← digitsOf base count
    pure (first :: rest)

/-- The number that exactly so many digits stand for. -/
def numberOf (base count : Nat) : Scan Nat := numeral base <$> digitsOf base count

/-- Further digits of a run, each with or without an underscore in front of it. -/
def moreDigits (base : Nat) : Scan (List Char) :=
  Scan.many (digit base <|> (do
    discard (Scan.char '_')
    digit base))

/-- A run of one digit or more. -/
def digits (base : Nat) : Scan (List Char) := do
  let first ← digit base
  let rest ← moreDigits base
  pure (first :: rest)

end Shorthand.Toml
