import Shorthand.Toml.Moment
import Shorthand.Toml.Text

/-!
# TOML documents

A document is read line by line into statements, and the statements build a table. A text is
refused as a whole when a line cannot be read, or when a statement cannot be carried out because
a key is there already. Arrays and inline tables may be nested 79 deep, and a key may have as
many parts.

The `toml` library is taken to accept the documents of version 1.0 of the format, with these
limits, and to give the values that the format describes. Where in a document a fault lies is left
out.
-/

namespace Shorthand.Toml

/-- The greatest number of parts of a key, and of arrays and inline tables inside each other. -/
def nestingLimit : Nat := 79

/-! ## Keys and entries -/

/-- Further parts of a dotted key. -/
def moreKeys : Scan (List String) :=
  Scan.many do
    blanks
    discard (Scan.char '.')
    blanks
    simpleKey

/-- A key with its parts. Blanks may stand around the dots. -/
def keyPath : Scan KeyPath := do
  let first ← simpleKey
  let rest ← moreKeys
  if nestingLimit < rest.length + 1 then failure
  else match rest.reverse with
    | [] => pure ⟨[], first⟩
    | last :: before => pure ⟨first :: before.reverse, last⟩

/-- A key, an equals sign and a value. -/
def entry (value : Scan Value) : Scan (KeyPath × Value) := do
  let path ← keyPath
  blanks
  discard (Scan.char '=')
  blanks
  let value ← value
  pure (path, value)

/-! ## Values -/

/-- Puts the entries of an inline table together. -/
def inlineEntries? : List (KeyPath × Value) → Entries → Option Entries
  | [], entries => some entries
  | (path, value) :: rest, entries => do
    let entries ← entries.addDotted? path.last value true path.before
    inlineEntries? rest entries

/-- True or false. -/
def boolean : Scan Bool :=
  (do Scan.word ['t', 'r', 'u', 'e']
      pure true) <|>
    (do Scan.word ['f', 'a', 'l', 's', 'e']
        pure false)

/-- A value that holds no other values. -/
def scalar : Scan Value :=
  (Value.text <$> string) <|> (Value.boolean <$> boolean) <|> (Value.moment <$> moment) <|>
    (Value.floating <$> floating) <|> (Value.integer <$> integer)

/-- An array. Its items may stand on several lines, and a comma may stand behind the last. -/
def array (value : Scan Value) : Scan Value := do
  discard (Scan.char '[')
  let (items, _) ← Scan.separated (do
    gap
    let item ← value
    gap
    pure item) ','
  gap
  discard (Scan.char ']')
  pure (.array false items)

/-- An inline table. It stands on one line, and no comma may stand behind its last entry. -/
def inlineTable (value : Scan Value) : Scan Value := do
  discard (Scan.char '\x7b')
  let (entries, openEnd) ← Scan.separated (do
    blanks
    let found ← entry value
    blanks
    pure found) ','
  blanks
  discard (Scan.char '\x7d')
  if openEnd ∧ entries ≠ [] then failure
  else match inlineEntries? entries [] with
    | some entries => pure (.table .inline entries)
    | none => failure

/-- A value with so many levels of arrays and inline tables at most. -/
def valueWithin : Nat → Scan Value
  | 0 => scalar
  | depth + 1 => scalar <|> array (valueWithin depth) <|> inlineTable (valueWithin depth)

/-- A value. -/
def value : Scan Value := valueWithin nestingLimit

/-! ## Lines -/

/-- The header of a table, or of an item of an array of tables. -/
def header : Scan Statement :=
  (do
    Scan.word ['[', '[']
    blanks
    let path ← keyPath
    blanks
    Scan.word [']', ']']
    pure (.item path)) <|> (do
    discard (Scan.char '[')
    blanks
    let path ← keyPath
    blanks
    discard (Scan.char ']')
    pure (.table path))

/-- One line with its end. -/
def line : Scan Statement := do
  blanks
  let statement ←
    header <|> ((fun found => Statement.entry found.1 found.2) <$> entry value) <|>
      pure .blank
  lineEnd
  pure statement

/-- Takes a byte order mark off the front of a text. -/
def dropMark : List Char → List Char
  | '\ufeff' :: rest => rest
  | text => text

/-- The table that a document describes, if the document is well-formed. -/
def parse? (document : String) : Option Entries :=
  let read := Scan.manyFrom line (dropMark document.toList)
  if read.2.isEmpty then build? [] read.1 [] else none

end Shorthand.Toml
