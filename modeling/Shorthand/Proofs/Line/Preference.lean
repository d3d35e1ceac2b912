import Shorthand.Proofs.Attribute.Pair
import Shorthand.Proofs.Line.Grammar

/-!
# The preferred reading of a line

Of all the ways to read a line one is preferred. Indentation, tag, id and class run go as far as
they can, and nothing that follows ever makes them shorter. For the attribute pairs there is a
choice: a longer key may swallow the pairs or the text behind it. The pairs that are read are the
greatest among those behind which the line can still be read to its end, when they are compared
from left to right by their lengths (`lex_of_readTail?`), a further pair being better than none.
-/

namespace Shorthand.Line

open Attribute (Pair)

/-! ## The attribute pairs -/

/-- How much of the line each pair takes up, the space in front of it included. -/
def unitLengths (pairs : List Pair) : List Nat := pairs.map fun pair => pair.written.length + 1

/-- The first success in a sorted list is any other success or comes before it. -/
theorem exists_of_findSome?_sorted {α β : Type} {before : α → α → Prop} {items : List α}
    (sorted : items.Pairwise before) {f : α → Option β} {result : β}
    (h : items.findSome? f = some result) {other : α} (member : other ∈ items)
    (success : (f other).isSome = true) :
    ∃ first ∈ items, f first = some result ∧ (first = other ∨ before first other) := by
  obtain ⟨earlier, first, later, rfl, found, missed⟩ := List.findSome?_eq_some_iff.1 h
  refine ⟨first, by simp, found, ?_⟩
  rcases List.mem_append.1 member with early | late
  · rw [missed other early] at success
    cases success
  · obtain ⟨-, sorted, -⟩ := List.pairwise_append.1 sorted
    rcases List.mem_cons.1 late with rfl | behind
    · exact .inl rfl
    · exact .inr ((List.pairwise_cons.1 sorted).1 other behind)

/-- Where a pair can be read and the rest behind it as well, reading goes on with that pair or
with a longer one. -/
theorem exists_pair_of_readTail? {pair : Pair} {behind : List Char} {tail : Tail}
    (h : readTail? (' ' :: (pair.written ++ behind)) = some tail) (wellFormed : pair.WellFormed)
    (success : (readTail? behind).isSome = true) :
    ∃ first after rest, readTail? after = some rest ∧ tail = rest.cons first ∧
      ((first, after) = (pair, behind) ∨ pair.written.length < first.written.length) := by
  have member : (pair, behind) ∈ Pair.leading (pair.written ++ behind) :=
    Pair.mem_leading.2 ⟨rfl, wellFormed⟩
  have success' : ((readTail? behind).map (Tail.cons pair)).isSome = true := by
    rwa [Option.isSome_map]
  rw [readTail?_space, Option.or_eq_some_iff] at h
  rcases h with found | ⟨missed, -⟩
  · obtain ⟨⟨first, after⟩, -, read, order⟩ := exists_of_findSome?_sorted
      (f := fun found => (readTail? found.2).map (Tail.cons found.1))
      (Pair.leading_sorted _) found member success'
    obtain ⟨rest, readRest, rfl⟩ := Option.map_eq_some_iff.1 read
    exact ⟨first, after, rest, readRest, rfl, order⟩
  · rw [List.findSome?_eq_none_iff.1 missed _ member] at success'
    cases success'

/-- **The pairs are the greatest there are**: any other pairs behind which the line can be read
to its end come before them in the lexicographic order of lengths. -/
theorem lex_of_readTail? {text : List Char} {tail : Tail} (h : readTail? text = some tail)
    {pairs : List Pair} {rest : List Char} (wellFormed : ∀ pair ∈ pairs, pair.WellFormed)
    (readable : Readable rest) (split : attributeRun pairs ++ rest = text) :
    pairs = tail.pairs ∨ List.Lex (· < ·) (unitLengths pairs) (unitLengths tail.pairs) := by
  induction pairs generalizing text tail with
  | nil =>
    cases found : tail.pairs with
    | nil => exact .inl rfl
    | cons first others => exact .inr .nil
  | cons pair pairs ih =>
    have others : ∀ other ∈ pairs, other.WellFormed := by
      intro other member
      exact wellFormed other (List.mem_cons_of_mem pair member)
    rw [attributeRun_cons] at split
    subst split
    obtain ⟨first, after, tail', readRest, rfl, order⟩ :=
      exists_pair_of_readTail? h (wellFormed pair List.mem_cons_self)
        (isSome_readTail?_of_readable others readable)
    rcases order with same | longer
    -- with the same pair the rest decides, with a longer one it does not matter
    · obtain ⟨rfl, rfl⟩ := Prod.mk.inj same
      rcases ih readRest others rfl with rfl | less
      · exact .inl rfl
      · exact .inr (.cons less)
    · exact .inr (.rel (Nat.succ_lt_succ longer))

/-! ## The text -/

/-- The text at the end of a line: all behind its first space, if that is anything. -/
def textBehind : List Char → List Char
  | ' ' :: c :: rest => c :: rest
  | _ => []

theorem text_of_readEnding? {text : List Char} {ending : Ending}
    (h : readEnding? text = some ending) : ending.text = textBehind text := by
  by_cases start : ∃ c rest, text = ' ' :: c :: rest
  · obtain ⟨c, rest, rfl⟩ := start
    rw [readEnding?_text] at h
    split at h
    · cases h
    · cases h
      rfl
  · have not_text : ∀ c rest, text ≠ ' ' :: c :: rest := by
      intro c rest same
      exact start ⟨c, rest, same⟩
    rw [readEnding?_of_not_text not_text] at h
    rw [textBehind.eq_2 text not_text]
    split at h
    · cases h
      rfl
    · cases h

/-! ## The line -/

/-- A reading that takes every part of the line as far as it goes, from left to right, and of the
attribute pairs the greatest. -/
structure Reading.Preferred (reading : Reading) (line : List Char) : Prop where
  written : reading.written = line
  depth : reading.depth = (line.takeWhile (· = ' ')).length
  tag : reading.tag = (line.dropWhile (· = ' ')).takeWhile Char.isAlphanum
  id : reading.id ≠ [] ↔ reading.behindTag.head? = some '#'
  id_longest : reading.id ≠ [] →
    reading.id = reading.behindTag.tail.takeWhile fun c => c ≠ ' ' && c ≠ '.'
  classRun : reading.classRun ≠ [] ↔ reading.behindId.head? = some '.'
  classRun_longest : reading.classRun ≠ [] →
    reading.classRun = reading.behindId.takeWhile (· ≠ ' ')
  pairs : ∀ pair ∈ reading.pairs, pair.WellFormed
  readable : Readable reading.behindPairs
  greatest : ∀ pairs rest, (∀ pair ∈ pairs, Pair.WellFormed pair) → Readable rest →
    attributeRun pairs ++ rest = reading.behindClassRun →
      pairs = reading.pairs ∨
        List.Lex (· < ·) (unitLengths pairs) (unitLengths reading.pairs)
  text : reading.text = textBehind reading.behindPairs

theorem preferred_of_read? {line : List Char} {reading : Reading}
    (h : read? line = some reading) : reading.Preferred line := by
  obtain ⟨depth, readTag, readId, readClassRun, readTail, readEnding⟩ := parts_of_read? h
  have id := readId?_eq_some readId
  have classRun := readClassRun?_eq_some readClassRun
  constructor
  case written => exact written_of_read? h
  case depth => exact depth
  case tag => exact (readTag?_eq_some readTag).1
  case id =>
    rcases id with ⟨no_mark, missing, -⟩ | ⟨more, mark, some_id, -⟩
    · simp [no_mark, missing]
    · simp [mark, some_id]
  case id_longest =>
    intro some_id
    rcases id with ⟨-, missing, -⟩ | ⟨more, mark, -, longest, -⟩
    · exact absurd missing some_id
    · rw [mark]
      exact longest
  case classRun =>
    rcases classRun with ⟨no_dot, missing, -⟩ | ⟨classes, dot, -, run, -⟩
    · simp [no_dot, missing]
    · simp [dot, run]
  case classRun_longest =>
    intro some_class
    rcases classRun with ⟨-, missing, -⟩ | ⟨classes, dot, -, run, -⟩
    · exact absurd missing some_class
    · rw [run, dot, List.takeWhile_cons_of_pos (by decide)]
  case pairs => exact (readTail?_eq_some readTail).1
  case readable => exact isSome_readEnding?_iff.1 (by rw [readEnding]; rfl)
  case greatest =>
    intro pairs rest wellFormed readable split
    exact lex_of_readTail? readTail wellFormed readable split
  case text => exact text_of_readEnding? readEnding

/-! ## The fields -/

theorem intercalate_classTokens (reading : Reading) :
    ".".intercalate reading.fields.classTokens = String.ofList reading.classRun := by
  apply String.toList_inj.1
  have pieces : (reading.fields.classTokens).map String.toList =
      Text.splitOn '.' reading.classRun := by
    simp [Reading.fields, Function.comp_def]
  rw [String.toList_intercalate, pieces]
  exact (Text.intercalate_splitOn '.' reading.classRun).trans String.toList_ofList.symm

/-- **Classification prefers**: the depth and the fields of a line are those of the preferred
reading of the line. -/
theorem exists_preferred_of_placed? {line : String} {depth : Nat} {fields : Fields}
    (h : (classify line).placed? = some (depth, fields)) :
    ∃ reading : Reading, reading.Preferred line.toList ∧
      depth = reading.depth ∧
      fields.tag = String.ofList reading.tag ∧
      fields.id = String.ofList reading.id ∧
      ".".intercalate fields.classTokens = String.ofList reading.classRun ∧
      fields.attributes = Attribute.segment (String.ofList (attributeRun reading.pairs)) ∧
      fields.text = String.ofList reading.text := by
  obtain ⟨reading, read, -, rfl, rfl⟩ := exists_read?_of_placed? h
  refine ⟨reading, preferred_of_read? read, rfl, rfl, rfl, intercalate_classTokens reading, ?_, rfl⟩
  rw [Attribute.segment, String.toList_ofList]
  rfl

/-- A key that goes on into the value of a shorter one: the text is left only the last word. -/
theorem exists_preferred_with_quotes_in_key :
    ∃ fields reading, (classify " p a=\"b=\" c\" d").placed? = some (1, fields) ∧
      Reading.Preferred reading " p a=\"b=\" c\" d".toList ∧ reading.depth = 1 ∧
      Attribute.segment (String.ofList (attributeRun reading.pairs)) = ["a=\"b=\"", "c\""] ∧
      String.ofList reading.text = "d" := by
  have placed : (classify " p a=\"b=\" c\" d").placed? =
      some (1, ⟨"p", "", [""], ["a=\"b=\"", "c\""], "d"⟩) := by decide +kernel
  obtain ⟨reading, preferred, depth, -, -, -, attributes, text⟩ :=
    exists_preferred_of_placed? placed
  exact ⟨_, reading, placed, preferred, depth.symm, attributes.symm, text.symm⟩

end Shorthand.Line
