/-!
# Scanning

A scan takes something off the front of a text, or fails. Scans are put together with `do` and
`<|>`; a failing alternative gives back what it took.
-/

namespace Shorthand.Toml

/-- Takes a result off the front of a text, or fails. -/
abbrev Scan (α : Type) := StateT (List Char) Option α

namespace Scan

variable {α β : Type}

/-- One character that passes a test. -/
def charWhere (test : Char → Bool) : Scan Char := fun text =>
  match text with
  | c :: rest => if test c then some (c, rest) else none
  | [] => none

/-- One given character. -/
def char (c : Char) : Scan Char := charWhere (· = c)

/-- The given characters. -/
def word : List Char → Scan Unit
  | [] => pure ()
  | c :: rest => do
    discard (char c)
    word rest

/-- The characters up to the first that fails a test; perhaps none. -/
def takeWhile (test : Char → Bool) : Scan (List Char) := fun text =>
  some (text.takeWhile test, text.dropWhile test)

/-- The end of the text. -/
def atEnd : Scan Unit := fun text => if text.isEmpty then some ((), []) else none

/-- A result if there is one. -/
def optional? (scan : Scan α) : Scan (Option α) := (some <$> scan) <|> pure none

/-- As many results as there are, from a text. -/
def manyFrom (scan : Scan α) (text : List Char) : List α × List Char :=
  match scan text with
  | none => ([], text)
  | some (result, rest) =>
    if rest.length < text.length then
      let more := manyFrom scan rest
      (result :: more.1, more.2)
    else ([], text)
termination_by text.length

/-- As many results as there are, one after the other. -/
def many (scan : Scan α) : Scan (List α) := fun text => some (manyFrom scan text)

/-- Results with a separator between them, from a text, and whether a separator stands behind
the last one. -/
def separatedFrom (scan : Scan α) (separator : Char) (text : List Char) :
    (List α × Bool) × List Char :=
  match scan text with
  | none => (([], true), text)
  | some (result, rest) =>
    match rest with
    | c :: after =>
      if c = separator ∧ after.length < text.length then
        let more := separatedFrom scan separator after
        ((result :: more.1.1, more.1.2), more.2)
      else (([result], false), rest)
    | [] => (([result], false), rest)
termination_by text.length

/-- Results with a separator between them, and whether there is a result and no separator
behind the last one. -/
def separated (scan : Scan α) (separator : Char) : Scan (List α × Bool) := fun text =>
  some (separatedFrom scan separator text)

end Scan

/-! ## Blanks, comments and line ends -/

/-- Whether a character may stand between the parts of a line. -/
def isSpaceOrTab (c : Char) : Bool := c = ' ' || c = '\t'

/-- Whether a character may stand in a comment: anything but a control, tabs excepted. -/
def isCommentChar (c : Char) : Bool :=
  c = '\t' || (0x20 ≤ c.toNat && c.toNat ≠ 0x7F)

/-- Spaces and tabs, perhaps none. -/
def blanks : Scan Unit := discard (Scan.takeWhile isSpaceOrTab)

/-- A line feed, with or without a carriage return in front of it. -/
def newline : Scan Unit := Scan.word ['\n'] <|> Scan.word ['\r', '\n']

/-- A comment up to the end of its line. -/
def comment : Scan Unit := do
  discard (Scan.char '#')
  discard (Scan.takeWhile isCommentChar)

/-- The end of a line: blanks, perhaps a comment, and a line end or the end of the text. -/
def lineEnd : Scan Unit := do
  blanks
  discard (Scan.optional? comment)
  newline <|> Scan.atEnd

/-- Blanks, comments and line ends, as they may stand between the items of an array. -/
def gap : Scan Unit :=
  discard (Scan.many (discard (Scan.charWhere isSpaceOrTab) <|> newline <|> comment))

end Shorthand.Toml
