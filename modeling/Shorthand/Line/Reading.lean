import Shorthand.Attribute.Pair

/-!
# Readings of a line

A line of shorthand consists, in this order, of spaces, a tag, an optional `#id`, an optional
run of classes that starts with a dot, attribute pairs with a space in front of each, an
optional text behind a space, and trailing spaces and tabs. A line can often be read in several
ways, because keys may hold quotes and a text may look like a pair. `read?` takes the parts from
left to right, each as long as it can be. Only in the attribute pairs does it ever go back: it
tries the longest key first and keeps a choice if the rest of the line can be read.

The `regex` library is taken to choose among the readings of a line as a search does that takes
every repetition as long as it can and goes back only when the rest of the line does not fit.
-/

namespace Shorthand.Line

open Attribute (Pair)

/-- The parts of a line. The class run includes its dots; an absent part is empty. -/
structure Reading where
  depth : Nat
  tag : List Char
  id : List Char
  classRun : List Char
  pairs : List Pair
  text : List Char
  trail : List Char
deriving DecidableEq, Repr

/-! ## Writing a reading -/

/-- The pairs as they stand on a line, each behind a space. -/
def attributeRun (pairs : List Pair) : List Char := pairs.flatMap fun pair => ' ' :: pair.written

/-- A part that is written behind a mark, and left out with its mark when it is empty. -/
def marked (mark : Char) (part : List Char) : List Char :=
  if part = [] then [] else mark :: part

/-- The line that a reading is a reading of. -/
def Reading.written (reading : Reading) : List Char :=
  List.replicate reading.depth ' ' ++ reading.tag ++ marked '#' reading.id ++ reading.classRun ++
    attributeRun reading.pairs ++ marked ' ' reading.text ++ reading.trail

/-! ## The end of a line -/

/-- The characters that may trail behind everything else. -/
def isTrailing (c : Char) : Bool := c = ' ' || c = '\t'

/-- What follows the attribute pairs. -/
structure Ending where
  text : List Char
  trail : List Char
deriving DecidableEq, Repr

/-- Reads the end of a line. A space with something behind it starts the text, which goes on to
the end of the line and may not hold a line feed; otherwise only trailing characters are left. -/
def readEnding? : List Char → Option Ending
  | ' ' :: c :: rest => if '\n' ∈ c :: rest then none else some ⟨c :: rest, []⟩
  | trail => if trail.all isTrailing then some ⟨[], trail⟩ else none

/-- The attribute pairs with what follows them. -/
structure Tail where
  pairs : List Pair
  ending : Ending
deriving DecidableEq, Repr

/-- Puts a pair in front of the pairs. -/
def Tail.cons (pair : Pair) (tail : Tail) : Tail := { tail with pairs := pair :: tail.pairs }

/-- Reads pairs and the end of a line. A further pair is preferred over the end, and of several
pairs the one with the longest key; a pair is given up when what follows it cannot be read. -/
def readTail? (text : List Char) : Option Tail :=
  match text with
  | ' ' :: rest =>
    ((Pair.leading rest).attach.findSome? fun found =>
      (readTail? found.1.2).map (Tail.cons found.1.1)).or
        ((readEnding? (' ' :: rest)).map (Tail.mk []))
  | other => (readEnding? other).map (Tail.mk [])
termination_by text.length
decreasing_by
  have := Attribute.Pair.length_lt_of_mem_leading found.2
  simp only [List.length_cons]
  omega

/-! ## The start of a line -/

/-- Reads an optional id: behind a number sign, up to the next space or dot, not empty. -/
def readId? : List Char → Option (List Char × List Char)
  | '#' :: rest =>
    let id := rest.takeWhile fun c => c ≠ ' ' && c ≠ '.'
    if id = [] then none else some (id, rest.dropWhile fun c => c ≠ ' ' && c ≠ '.')
  | rest => some ([], rest)

/-- Reads an optional class run: from a dot up to the next space, with something behind the
dot. -/
def readClassRun? : List Char → Option (List Char × List Char)
  | '.' :: rest =>
    let run := rest.takeWhile (· ≠ ' ')
    if run = [] then none else some ('.' :: run, rest.dropWhile (· ≠ ' '))
  | rest => some ([], rest)

/-- Reads a tag: ASCII letters and digits, a letter first. -/
def readTag? (text : List Char) : Option (List Char × List Char) :=
  match text with
  | c :: _ =>
    if c.isAlpha then some (text.takeWhile Char.isAlphanum, text.dropWhile Char.isAlphanum)
    else none
  | [] => none

/-- The preferred reading of a line, whatever its tag. -/
def read? (line : List Char) : Option Reading := do
  let depth := (line.takeWhile (· = ' ')).length
  let (tag, rest) ← readTag? (line.dropWhile (· = ' '))
  let (id, rest) ← readId? rest
  let (classRun, rest) ← readClassRun? rest
  let tail ← readTail? rest
  return ⟨depth, tag, id, classRun, tail.pairs, tail.ending.text, tail.ending.trail⟩

/-! ## Equations -/

theorem findSome?_attach {α β : Type} (items : List α) (f : α → Option β) :
    (items.attach.findSome? fun item => f item.1) = items.findSome? f := by
  conv => rhs; rw [← List.attach_map_subtype_val items, List.findSome?_map]
  rfl

theorem readTail?_space (rest : List Char) :
    readTail? (' ' :: rest) =
      ((Pair.leading rest).findSome? fun found =>
        (readTail? found.2).map (Tail.cons found.1)).or
          ((readEnding? (' ' :: rest)).map (Tail.mk [])) := by
  rw [readTail?]
  rw [findSome?_attach (Pair.leading rest) fun found =>
    (readTail? found.2).map (Tail.cons found.1)]

theorem readTail?_of_not_space {text : List Char} (h : ∀ rest, text ≠ ' ' :: rest) :
    readTail? text = (readEnding? text).map (Tail.mk []) := by
  rw [readTail?]
  intro rest e
  exact h rest e

theorem readEnding?_text (c : Char) (rest : List Char) :
    readEnding? (' ' :: c :: rest) =
      if '\n' ∈ c :: rest then none else some ⟨c :: rest, []⟩ := rfl

theorem readEnding?_of_not_text {text : List Char} (h : ∀ c rest, text ≠ ' ' :: c :: rest) :
    readEnding? text = if text.all isTrailing then some ⟨[], text⟩ else none := by
  unfold readEnding?
  split
  · next c rest => exact absurd rfl (h c rest)
  · rfl

theorem readId?_mark (text : List Char) :
    readId? ('#' :: text) =
      if text.takeWhile (fun c => c ≠ ' ' && c ≠ '.') = [] then none
      else some (text.takeWhile fun c => c ≠ ' ' && c ≠ '.',
        text.dropWhile fun c => c ≠ ' ' && c ≠ '.') := rfl

theorem readId?_of_not_mark {text : List Char} (h : text.head? ≠ some '#') :
    readId? text = some ([], text) := by
  unfold readId?
  split
  · exact absurd rfl h
  · rfl

theorem readClassRun?_dot (text : List Char) :
    readClassRun? ('.' :: text) =
      if text.takeWhile (· ≠ ' ') = [] then none
      else some ('.' :: text.takeWhile (· ≠ ' '), text.dropWhile (· ≠ ' ')) := rfl

theorem readClassRun?_of_not_dot {text : List Char} (h : text.head? ≠ some '.') :
    readClassRun? text = some ([], text) := by
  unfold readClassRun?
  split
  · exact absurd rfl h
  · rfl

/-- A line is read part by part. -/
theorem read?_eq_some {line : List Char} {reading : Reading} :
    read? line = some reading ↔
      ∃ tag afterTag id afterId classRun afterClassRun tail,
        readTag? (line.dropWhile (· = ' ')) = some (tag, afterTag) ∧
        readId? afterTag = some (id, afterId) ∧
        readClassRun? afterId = some (classRun, afterClassRun) ∧
        readTail? afterClassRun = some tail ∧
        ⟨(line.takeWhile (· = ' ')).length, tag, id, classRun, tail.pairs, tail.ending.text,
          tail.ending.trail⟩ = reading := by
  simp only [read?, Option.bind_eq_bind, Option.bind_eq_some_iff, Option.pure_def,
    Option.some.injEq, Prod.exists]
  constructor
  · rintro ⟨tag, afterTag, h₁, id, afterId, h₂, classRun, afterClassRun, h₃, tail, h₄, rfl⟩
    exact ⟨tag, afterTag, id, afterId, classRun, afterClassRun, tail, h₁, h₂, h₃, h₄, rfl⟩
  · rintro ⟨tag, afterTag, id, afterId, classRun, afterClassRun, tail, h₁, h₂, h₃, h₄, rfl⟩
    exact ⟨tag, afterTag, h₁, id, afterId, h₂, classRun, afterClassRun, h₃, tail, h₄, rfl⟩

end Shorthand.Line
