import Shorthand.Toml.Number

/-!
# TOML dates and times

A date, a time of day, or both, the latter perhaps with an offset. They are kept as text in one
form: `T` between date and time, fractions of a second to nine places without needless zeros,
`Z` or a signed offset.
-/

namespace Shorthand.Toml

/-! ## Parts -/

/-- Two digits that stand for a number in a range. -/
def twoDigits (least most : Nat) : Scan Nat := do
  let value ← numberOf 10 2
  if least ≤ value ∧ value ≤ most then pure value else failure

/-- Whether a year has a leap day. -/
def isLeapYear (year : Nat) : Bool := year % 4 = 0 && (year % 100 ≠ 0 || year % 400 = 0)

/-- The number of days of a month. -/
def daysInMonth (year month : Nat) : Nat :=
  if month = 2 then if isLeapYear year then 29 else 28
  else if month = 4 ∨ month = 6 ∨ month = 9 ∨ month = 11 then 30
  else 31

/-- A number with zeros in front of it, in at least so many columns. -/
def padded (width value : Nat) : String :=
  let digits := toString value
  String.ofList (List.replicate (width - digits.length) '0') ++ digits

/-! ## Dates, times and offsets -/

/-- A date. -/
def date : Scan String := do
  let year ← numberOf 10 4
  discard (Scan.char '-')
  let month ← twoDigits 1 12
  discard (Scan.char '-')
  let day ← twoDigits 1 (daysInMonth year month)
  pure (padded 4 year ++ "-" ++ padded 2 month ++ "-" ++ padded 2 day)

/-- The fraction of a second: at most nine digits count, and zeros at the end do not. -/
def secondFraction : Scan String := do
  discard (Scan.char '.')
  let first ← digit 10
  let rest ← Scan.takeWhile Char.isDigit
  let kept := (((first :: rest).take 9).reverse.dropWhile (· = '0')).reverse
  pure (if kept = [] then "" else "." ++ String.ofList kept)

/-- A time of day. The last minute of a day may have a leap second. -/
def time : Scan String := do
  let hour ← twoDigits 0 23
  discard (Scan.char ':')
  let minute ← twoDigits 0 59
  discard (Scan.char ':')
  let second ← twoDigits 0 60
  let fraction? ← Scan.optional? secondFraction
  pure (padded 2 hour ++ ":" ++ padded 2 minute ++ ":" ++ padded 2 second ++ fraction?.getD "")

/-- An offset from universal time; no offset has no negative form. -/
def offset : Scan String :=
  (do discard (Scan.char 'Z' <|> Scan.char 'z')
      pure "Z") <|> (do
    let c ← Scan.char '+' <|> Scan.char '-'
    let hour ← twoDigits 0 23
    discard (Scan.char ':')
    let minute ← twoDigits 0 59
    let mark := if c = '-' ∧ hour + minute ≠ 0 then "-" else "+"
    pure (mark ++ padded 2 hour ++ ":" ++ padded 2 minute))

/-- The time behind a date, with its offset. -/
def timeBehindDate : Scan String := do
  discard (Scan.charWhere fun c => c = 'T' || c = 't' || c = ' ')
  let time ← time
  let offset? ← Scan.optional? offset
  pure ("T" ++ time ++ offset?.getD "")

/-- A date, a time, or both. -/
def moment : Scan String :=
  (do
    let date ← date
    let time? ← Scan.optional? timeBehindDate
    pure (date ++ time?.getD "")) <|> time

end Shorthand.Toml
