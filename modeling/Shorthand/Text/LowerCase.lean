import Shorthand.Text.CaseTable

/-!
# Lower case

Lower-casing of whole texts. Each capital becomes its one-letter lower form, with two
exceptions: the dotted capital I becomes `i` followed by a combining dot, and a capital sigma
at the end of a word becomes the final sigma. A text of ASCII characters is lower-cased letter
by letter (`lowerCase_of_ascii`).
-/

namespace Shorthand.Text

/-! ## One character -/

/-- The one-letter lower form of a character; a character that is no capital is its own. -/
def lowerChar (c : Char) : Char :=
  if c.toNat < 0x80 then c.toLower
  else match capitalRuns.find? (·.contains c.toNat) with
    | some run => Char.ofNat ((c.toNat : Int) + run.shift).toNat
    | none => c

/-- Whether a character is a letter with case. -/
def isCased (c : Char) : Bool := inRanges casedRanges c

/-- Whether a character is passed over in the search for a neighbouring cased letter. -/
def isCaseIgnorable (c : Char) : Bool := inRanges caseIgnorableRanges c

/-! ## The final sigma -/

/-- Whether the first character that is not passed over is a cased letter. -/
def startsCased (text : List Char) : Bool :=
  match text.dropWhile isCaseIgnorable with
  | c :: _ => isCased c
  | [] => false

/-- A capital sigma is final when a cased letter comes before it and none comes after it;
`before` is what precedes it, nearest character first. -/
def isFinalSigma (before after : List Char) : Bool :=
  startsCased before && !startsCased after

/-! ## Texts -/

/-- Lower-cases the rest of a text, given what precedes it, nearest character first. -/
def lowerFrom (before : List Char) : List Char → List Char
  | [] => []
  | c :: after =>
    let lowered :=
      if c = 'İ' then ['i', '\u0307']
      else if c = 'Σ' then [if isFinalSigma before after then 'ς' else 'σ']
      else [lowerChar c]
    lowered ++ lowerFrom (c :: before) after

/-- The text in lower case. -/
def lowerCase (text : String) : String := String.ofList (lowerFrom [] text.toList)

/-! ## ASCII -/

theorem lowerFrom_of_ascii {text : List Char} (ascii : ∀ c ∈ text, c.toNat < 0x80)
    (before : List Char) : lowerFrom before text = text.map Char.toLower := by
  induction text generalizing before with
  | nil => rfl
  | cons c rest ih =>
    have small : c.toNat < 0x80 := ascii c (by simp)
    have notDotted : c ≠ 'İ' := by
      rintro rfl
      exact absurd small (by decide)
    have notSigma : c ≠ 'Σ' := by
      rintro rfl
      exact absurd small (by decide)
    simp [lowerFrom, notDotted, notSigma, lowerChar, small, ih fun d hd => ascii d (by simp [hd])]

/-- A text of ASCII characters is lower-cased letter by letter. -/
theorem lowerCase_of_ascii {text : String} (ascii : ∀ c ∈ text.toList, c.toNat < 0x80) :
    lowerCase text = String.ofList (text.toList.map Char.toLower) := by
  simp [lowerCase, lowerFrom_of_ascii ascii]

end Shorthand.Text
