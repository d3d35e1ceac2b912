/-!
# JSON texts

The JSON values that documents need, texts, lists and objects, and the two ways to write them.
The compact text has no blanks outside of strings. The pretty text puts every item on a line of
its own, two spaces further in than what holds it, and writes an empty list or object in two
characters. The `serde_json` library is taken to write both, with these escapes and no others.
-/

namespace Shorthand

/-- A JSON value made of texts, lists and objects. The fields of an object keep their order. -/
inductive Json where
  | text (value : String)
  | list (items : List Json)
  | object (fields : List (String × Json))
deriving Inhabited

namespace Json

/-! ## Strings -/

/-- A hexadecimal digit in lower case. -/
def hexDigit (value : Nat) : Char :=
  if value < 10 then Char.ofNat (48 + value) else Char.ofNat (87 + value)

/-- A character as it stands in a JSON string: quote, backslash and the controls are escaped,
some of them by a letter, and everything else stands for itself. -/
def escapeChar (c : Char) : List Char :=
  match c with
  | '"' => ['\\', '"']
  | '\\' => ['\\', '\\']
  | '\x08' => ['\\', 'b']
  | '\x0c' => ['\\', 'f']
  | '\n' => ['\\', 'n']
  | '\r' => ['\\', 'r']
  | '\t' => ['\\', 't']
  | c =>
    if c.toNat < 0x20 then
      ['\\', 'u', '0', '0', hexDigit (c.toNat / 16), hexDigit (c.toNat % 16)]
    else [c]

/-- A text as a JSON string with its quotes. -/
def quote (text : String) : String :=
  "\"" ++ String.ofList (text.toList.flatMap escapeChar) ++ "\""

/-! ## Compact text -/

mutual

/-- The compact text of a value. -/
def compact : Json → String
  | text value => quote value
  | list items => "[" ++ compactItems items ++ "]"
  | object fields => "\x7b" ++ compactFields fields ++ "\x7d"

/-- The items of a list with commas between them. -/
def compactItems : List Json → String
  | [] => ""
  | item :: rest => compact item ++ (if rest.isEmpty then "" else ",") ++ compactItems rest

/-- The fields of an object with commas between them. -/
def compactFields : List (String × Json) → String
  | [] => ""
  | field :: rest =>
    compactField field ++ (if rest.isEmpty then "" else ",") ++ compactFields rest

/-- A key and its value. -/
def compactField : String × Json → String
  | (key, value) => quote key ++ ":" ++ compact value

end

/-! ## Pretty text -/

/-- A new line at a level of nesting. -/
def newLine (level : Nat) : String := "\n" ++ String.ofList (List.replicate (2 * level) ' ')

mutual

/-- The pretty text of a value whose first line starts at the given level. -/
def prettyAt (level : Nat) : Json → String
  | text value => quote value
  | list items =>
    if items.isEmpty then "[]"
    else "[" ++ prettyItems (level + 1) items ++ newLine level ++ "]"
  | object fields =>
    if fields.isEmpty then "\x7b\x7d"
    else "\x7b" ++ prettyFields (level + 1) fields ++ newLine level ++ "\x7d"

/-- The items of a list, each on a line of its own, with commas between them. -/
def prettyItems (level : Nat) : List Json → String
  | [] => ""
  | item :: rest =>
    newLine level ++ prettyAt level item ++ (if rest.isEmpty then "" else ",") ++
      prettyItems level rest

/-- The fields of an object, each on a line of its own, with commas between them. -/
def prettyFields (level : Nat) : List (String × Json) → String
  | [] => ""
  | field :: rest =>
    newLine level ++ prettyField level field ++ (if rest.isEmpty then "" else ",") ++
      prettyFields level rest

/-- A key and its value with a blank after the colon. -/
def prettyField (level : Nat) : String × Json → String
  | (key, value) => quote key ++ ": " ++ prettyAt level value

end

/-- The pretty text of a value. -/
def pretty (value : Json) : String := prettyAt 0 value

end Json

end Shorthand
