/-!
# Parse errors

The two causes for which a parse fails. Each names the line by its number, counted from one, and
by its content. Only a rejecting policy makes a parse fail.
-/

namespace Shorthand

/-- Why a parse failed. -/
inductive ParseError where
  /-- A line that is neither blank nor shorthand. -/
  | unrecognizedLine (line : Nat) (content : String)
  /-- A nested line deeper than the open elements allow; at most `max` would have been
  accepted. -/
  | malformedDepth (line : Nat) (content : String) (depth max : Nat)
deriving DecidableEq, Repr

namespace ParseError

/-- A number in at least three columns, filled up with spaces on the left. -/
def lineColumn (line : Nat) : String :=
  let digits := toString line
  String.ofList (List.replicate (3 - digits.length) ' ') ++ digits

/-- The line that an error message quotes. -/
def quotedLine (line : Nat) (content : String) : String :=
  ">> " ++ lineColumn line ++ " | " ++ content

/-- The cause in words, and below it the line with its number. -/
def message : ParseError → String
  | unrecognizedLine line content =>
    "Unrecognized shorthand on line " ++ toString line ++ "\n" ++ quotedLine line content
  | malformedDepth line content depth max =>
    "Indentation of " ++ toString depth ++ " on line " ++ toString line ++
      " is deeper than the open elements allow (at most " ++ toString max ++ ")\n" ++
      quotedLine line content

/-- The number of the line at fault. -/
def line : ParseError → Nat
  | unrecognizedLine line _ => line
  | malformedDepth line _ _ _ => line

/-- The same error on a line the given number of lines further down. -/
def shift (offset : Nat) : ParseError → ParseError
  | unrecognizedLine line content => unrecognizedLine (line + offset) content
  | malformedDepth line content depth max => malformedDepth (line + offset) content depth max

end ParseError

end Shorthand
