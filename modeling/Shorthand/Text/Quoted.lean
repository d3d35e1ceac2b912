import Shorthand.Text.CodeRange
import Shorthand.Text.QuoteTable

/-!
# Quoted text

A text between double quotes, written so that every character can be told from its look. What
cannot be seen, or would join the character before it, is written by its code.
-/

namespace Shorthand.Text

/-- Whether a character is written by its code between quotes. -/
def isHidden (c : Char) : Bool := inRanges extenderRanges c || inRanges unseenRanges c

/-- A character by its code, in as few hexadecimal digits as it takes. -/
def coded (c : Char) : List Char := ['\\', 'u', '\x7b'] ++ Nat.toDigits 16 c.toNat ++ ['\x7d']

/-- A character as it stands between quotes. -/
def quotedChar (c : Char) : List Char :=
  match c with
  | '"' => ['\\', '"']
  | '\\' => ['\\', '\\']
  | '\n' => ['\\', 'n']
  | '\r' => ['\\', 'r']
  | '\t' => ['\\', 't']
  | '\x00' => ['\\', '0']
  | c => if isHidden c then coded c else [c]

/-- A text between quotes. -/
def quoted (text : String) : String :=
  String.ofList (['"'] ++ text.toList.flatMap quotedChar ++ ['"'])

end Shorthand.Text
