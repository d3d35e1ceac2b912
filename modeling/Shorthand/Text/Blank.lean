import Shorthand.Text.CodeRange

/-!
# Blank text

White space as a property of characters. `isBlank` is the test that tells an empty-looking
line from a line of prose.
-/

namespace Shorthand.Text

/-- The characters that are white space: the ASCII controls from tab to carriage return, the
spaces of every width, and the line and paragraph separators. -/
def blankRanges : List (Nat × Nat) :=
  [(0x0009, 0x000D), (0x0020, 0x0020), (0x0085, 0x0085), (0x00A0, 0x00A0), (0x1680, 0x1680),
    (0x2000, 0x200A), (0x2028, 0x2029), (0x202F, 0x202F), (0x205F, 0x205F), (0x3000, 0x3000)]

/-- Whether a character is white space. -/
def isBlankChar (c : Char) : Bool := inRanges blankRanges c

/-- Whether a text holds white space only; the empty text does. -/
def isBlank (text : String) : Bool := text.toList.all isBlankChar

theorem isBlank_empty : isBlank "" = true := by decide

/-- A letter or digit is never white space, so a line with a tag is never blank. -/
theorem isBlankChar_of_isAlphanum {c : Char} (h : c.isAlphanum = true) :
    isBlankChar c = false := by
  have bound : 48 ≤ c.toNat ∧ c.toNat ≤ 122 := by
    -- the letters and digits as three intervals of codes
    change (decide (65 ≤ c.toNat ∧ c.toNat ≤ 90) ||
      (decide (97 ≤ c.toNat) && decide (c.toNat ≤ 122)) ||
      (decide (48 ≤ c.toNat) && decide (c.toNat ≤ 57))) = true at h
    simp only [Bool.or_eq_true, Bool.and_eq_true, decide_eq_true_eq] at h
    omega
  simp only [isBlankChar, inRanges, blankRanges, List.any_cons, List.any_nil, Bool.or_false]
  simp only [Bool.or_eq_false_iff, Bool.and_eq_false_iff, decide_eq_false_iff_not]
  omega

end Shorthand.Text
