import Shorthand.Toml.Digit

/-!
# TOML strings and keys

The four kinds of strings: basic strings with escapes and literal strings without, each on one
line or on several. Several-line strings end at three quotes; one or two quotes may stand
directly before those. A line end in a string counts as a line feed.
-/

namespace Shorthand.Toml

/-! ## Characters -/

/-- Whether a character stands for itself in a string with the given quote. -/
def isPlainChar (quote : Char) (c : Char) : Bool := isCommentChar c && c ≠ quote

/-- The character with the given code, if the code is that of a character. -/
def charOfCode? (code : Nat) : Option Char :=
  if h : code.isValidChar then some (Char.ofNatAux code h) else none

/-- A character given by so many hexadecimal digits of its code. -/
def codedChar (count : Nat) : Scan Char := do
  let code ← numberOf 16 count
  match charOfCode? code with
  | some c => pure c
  | none => failure

/-- What follows a backslash. -/
def escapedChar : Scan Char := do
  let c ← Scan.charWhere fun _ => true
  match c with
  | 'b' => pure '\x08'
  | 't' => pure '\t'
  | 'n' => pure '\n'
  | 'f' => pure '\x0c'
  | 'r' => pure '\r'
  | '"' => pure '"'
  | '\\' => pure '\\'
  | 'u' => codedChar 4
  | 'U' => codedChar 8
  | _ => failure

/-- A character of a basic string. -/
def basicChar : Scan Char :=
  Scan.charWhere (fun c => isPlainChar '"' c && c ≠ '\\') <|> (do
    discard (Scan.char '\\')
    escapedChar)

/-! ## Strings on one line -/

/-- A basic string. -/
def basicString : Scan (List Char) := do
  discard (Scan.char '"')
  let text ← Scan.many basicChar
  discard (Scan.char '"')
  pure text

/-- A literal string. -/
def literalString : Scan (List Char) := do
  discard (Scan.char '\'')
  let text ← Scan.takeWhile (isPlainChar '\'')
  discard (Scan.char '\'')
  pure text

/-! ## Strings on several lines -/

/-- A line end inside a string. -/
def lineFeed : Scan (List Char) := do
  newline
  pure ['\n']

/-- A backslash at the end of a line: it takes away all blanks and line ends after it. -/
def foldedLine : Scan (List Char) := do
  discard (Scan.char '\\')
  blanks
  newline
  discard (Scan.many (discard (Scan.charWhere isSpaceOrTab) <|> newline))
  pure []

/-- One or two quotes with something else behind them. -/
def innerQuotes (quote : Char) : Scan (List Char) := fun text =>
  let quotes := text.takeWhile (· = quote)
  if quotes.length = 1 ∨ quotes.length = 2 then some (quotes, text.dropWhile (· = quote))
  else none

/-- Three quotes that end a string, with up to two more in front of them, which belong to the
string. -/
def closingQuotes (quote : Char) : Scan (List Char) := fun text =>
  let quotes := text.takeWhile (· = quote)
  if 3 ≤ quotes.length ∧ quotes.length ≤ 5 then
    some (quotes.drop 3, text.dropWhile (· = quote))
  else none

/-- A string on several lines, given its quote and its pieces. A line end directly behind the
opening quotes is left out. -/
def multiline (quote : Char) (piece : Scan (List Char)) : Scan (List Char) := do
  Scan.word [quote, quote, quote]
  discard (Scan.optional? newline)
  -- three quotes or more are no piece, so the pieces stop in front of them
  let pieces ← Scan.many (piece <|> lineFeed <|> innerQuotes quote)
  let last ← closingQuotes quote
  pure (pieces.flatten ++ last)

/-- A basic string on several lines. -/
def multilineBasic : Scan (List Char) :=
  multiline '"' (foldedLine <|> (List.singleton <$> basicChar))

/-- A literal string on several lines. -/
def multilineLiteral : Scan (List Char) :=
  multiline '\'' (List.singleton <$> Scan.charWhere (isPlainChar '\''))

/-- A string of any kind. -/
def string : Scan String :=
  String.ofList <$> (multilineBasic <|> multilineLiteral <|> basicString <|> literalString)

/-! ## Keys -/

/-- Whether a character may stand in a key without quotes. -/
def isBareChar (c : Char) : Bool := c.isAlphanum || c = '_' || c = '-'

/-- A key without quotes. -/
def bareKey : Scan (List Char) := do
  let key ← Scan.takeWhile isBareChar
  if key = [] then failure else pure key

/-- A single key. -/
def simpleKey : Scan String := String.ofList <$> (bareKey <|> basicString <|> literalString)

end Shorthand.Toml
