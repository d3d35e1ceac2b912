import Shorthand.Text.Split

/-!
# Line endings

How a source text is cut into lines. With `any` a line ends at a line feed, and one carriage
return in front of the line feed (or at the end of the source) belongs to the ending. With
`crlf` only the two characters together end a line, so lines may hold single ones of them.
-/

namespace Shorthand

/-- The ways to cut a source into lines. -/
inductive LineEndings where
  | any
  | crlf
deriving DecidableEq, Repr, Inhabited

namespace LineEndings

/-- Takes one carriage return off the end of a line. -/
def dropReturn (line : List Char) : List Char :=
  if line.getLast? = some '\r' then line.dropLast else line

/-- Cuts a text at each carriage return that is followed by a line feed. -/
def splitPairs : List Char → List (List Char)
  | '\r' :: '\n' :: rest => [] :: splitPairs rest
  | c :: rest => Text.consFirst c (splitPairs rest)
  | [] => [[]]

/-- The lines of a source without their endings. -/
def cut : LineEndings → List Char → List (List Char)
  | any, source => (Text.splitOn '\n' source).map dropReturn
  | crlf, source => splitPairs source

/-- The lines of a source without their endings, as texts. -/
def split (endings : LineEndings) (source : String) : List String :=
  (endings.cut source.toList).map String.ofList

theorem splitPairs_ne_nil (source : List Char) : splitPairs source ≠ [] := by
  unfold splitPairs
  split
  · simp
  · exact Text.consFirst_ne_nil _ _
  · simp

/-- Every source has at least one line. -/
theorem cut_ne_nil (endings : LineEndings) (source : List Char) : endings.cut source ≠ [] := by
  cases endings with
  | any => simpa [cut] using Text.splitOn_ne_nil '\n' source
  | crlf => exact splitPairs_ne_nil source

end LineEndings

end Shorthand
