import Shorthand.Attribute.Pair
import Shorthand.Text.Split

/-!
# Segments of an attribute run

An attribute run is the stretch of a line that holds its pairs, each behind a space. Values may
hold spaces, so cutting the run at spaces tears some pairs apart; `segment` cuts it and puts
the torn ones together again. The pieces it returns are the candidates that `Pair.read?` reads.
-/

namespace Shorthand.Attribute

/-- Whether a token holds a whole pair. A token has no space in it, so a key can always be
taken from the token's start. -/
def holdsPair (token : List Char) : Bool := !(Pair.leading token).isEmpty

/-- Glues tokens: one that holds a pair stands on its own; any other is collected until one
ends with a quote, which closes the collection. What is still collected at the end never closed
its quote and is left out. -/
def glue (collected : List Char) : List (List Char) → List (List Char)
  | [] => []
  | token :: tokens =>
    if holdsPair token then token :: glue collected tokens
    else if token.getLast? = some '"' then (collected ++ token) :: glue [] tokens
    -- the space that the cut took away belongs to the value
    else glue (collected ++ token ++ [' ']) tokens

/-- The pieces of an attribute run. The run starts with a space, so what stands before the
first space is no token. -/
def segmentRun (run : List Char) : List (List Char) := glue [] ((Text.splitOn ' ' run).drop 1)

/-- The pieces of an attribute run, as texts. -/
def segment (run : String) : List String := (segmentRun run.toList).map String.ofList

/-- The key and the value of a text that is exactly one pair. -/
def readPair? (raw : String) : Option (String × String) :=
  (Pair.read? raw.toList).map fun pair => (String.ofList pair.key, String.ofList pair.value)

theorem holdsPair_iff {token : List Char} :
    holdsPair token = true ↔ ∃ pair rest, token = Pair.written pair ++ rest ∧ pair.WellFormed := by
  constructor
  · intro h
    cases hl : Pair.leading token with
    | nil => simp [holdsPair, hl] at h
    | cons found others =>
      exact ⟨found.1, found.2, Pair.mem_leading.1 (by simp [hl])⟩
  · rintro ⟨pair, rest, h⟩
    have : (pair, rest) ∈ Pair.leading token := Pair.mem_leading.2 h
    cases hl : Pair.leading token with
    | nil => simp [hl] at this
    | cons found others => simp [holdsPair, hl]

end Shorthand.Attribute
