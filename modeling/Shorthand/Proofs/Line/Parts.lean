import Shorthand.Proofs.Attribute.Segment
import Shorthand.Proofs.Line.Preference

/-!
# A line from its fields

Classifying loses no character: the depth and the fields of a line give the line back, up to
blanks that trail behind it when it has no text (`eq_written_of_placed?`). For most parts this
is how they are read; the attributes are cut into segments behind the reader's back, and that
they still join to the run that was read is `Attribute.flatMap_segmentRun`.
-/

namespace Shorthand.Line

open Attribute (Pair)

/-! ## Writing fields -/

/-- A part behind its mark, and nothing at all when the part is empty. -/
def markedText (mark part : String) : String := if part = "" then "" else mark ++ part

/-- The fields as they stand on a line. The first class token stands before the first dot. -/
def Fields.written (fields : Fields) : String :=
  fields.tag ++ markedText "#" fields.id ++ ".".intercalate fields.classTokens ++
    String.join (fields.attributes.map (" " ++ ·)) ++ markedText " " fields.text

theorem markedText_ofList (mark : Char) (part : List Char) :
    markedText (String.ofList [mark]) (String.ofList part) = String.ofList (marked mark part) := by
  unfold markedText marked
  by_cases missing : part = []
  · subst missing
    rfl
  · have some_part : String.ofList part ≠ "" := by
      intro same
      exact missing (String.ofList_inj.1 same)
    rw [if_neg missing, if_neg some_part, ← String.ofList_append, List.singleton_append]

theorem join_ofList (segments : List (List Char)) :
    String.join ((segments.map String.ofList).map (" " ++ ·)) =
      String.ofList (segments.flatMap (' ' :: ·)) := by
  induction segments with
  | nil => rfl
  | cons segment segments ih =>
    rw [List.map_cons, List.map_cons, String.join_cons, ih, List.flatMap_cons,
      String.ofList_append, ← List.singleton_append, String.ofList_append]

/-- The segments of a run of pairs, each behind a space, are the run. -/
theorem join_segment {pairs : List Pair} (wellFormed : ∀ pair ∈ pairs, Pair.WellFormed pair) :
    String.join ((Attribute.segment (String.ofList (attributeRun pairs))).map (" " ++ ·)) =
      String.ofList (attributeRun pairs) := by
  rw [Attribute.segment, String.toList_ofList, join_ofList,
    Attribute.flatMap_segmentRun wellFormed]

theorem written_fields {reading : Reading}
    (wellFormed : ∀ pair ∈ reading.pairs, Pair.WellFormed pair) :
    reading.fields.written = String.ofList (reading.tag ++ marked '#' reading.id ++
      reading.classRun ++ attributeRun reading.pairs ++ marked ' ' reading.text) := by
  have id : markedText "#" reading.fields.id = String.ofList (marked '#' reading.id) :=
    markedText_ofList '#' reading.id
  have attributes : String.join (reading.fields.attributes.map (" " ++ ·)) =
      String.ofList (attributeRun reading.pairs) := by
    rw [← Attribute.flatMap_segmentRun wellFormed, ← join_ofList]
    rfl
  have text : markedText " " reading.fields.text = String.ofList (marked ' ' reading.text) :=
    markedText_ofList ' ' reading.text
  rw [Fields.written, id, intercalate_classTokens, attributes, text]
  simp only [String.ofList_append]
  rfl

/-! ## Reading them back -/

/-- A text goes on to the end of its line, so nothing trails behind it. -/
theorem trail_of_readEnding? {text : List Char} {ending : Ending}
    (h : readEnding? text = some ending) (some_text : ending.text ≠ []) : ending.trail = [] := by
  by_cases start : ∃ c rest, text = ' ' :: c :: rest
  · obtain ⟨c, rest, rfl⟩ := start
    rw [readEnding?_text] at h
    split at h
    · cases h
    · cases h
      rfl
  · have not_text : ∀ c rest, text ≠ ' ' :: c :: rest := by
      intro c rest same
      exact start ⟨c, rest, same⟩
    rw [readEnding?_of_not_text not_text] at h
    split at h
    · cases h
      exact absurd rfl some_text
    · cases h

/-- **No character is lost**: a line is its indentation, its fields and what trails behind them,
which is blank, and nothing if there is a text. In this the segments of a run of pairs are all of
the run, in order. -/
theorem eq_written_of_placed? {line : String} {depth : Nat} {fields : Fields}
    (h : (classify line).placed? = some (depth, fields)) :
    (∃ trail : String,
      line = String.ofList (List.replicate depth ' ') ++ fields.written ++ trail ∧
        (∀ c ∈ trail.toList, c = ' ' ∨ c = '\t') ∧ (fields.text ≠ "" → trail = "")) ∧
      ∀ pairs : List Pair, (∀ pair ∈ pairs, pair.WellFormed) →
        String.join ((Attribute.segment (String.ofList (attributeRun pairs))).map (" " ++ ·)) =
          String.ofList (attributeRun pairs) := by
  obtain ⟨reading, read, known, rfl, rfl⟩ := exists_read?_of_placed? h
  have wellFormed := wellFormed_of_read? read known
  obtain ⟨-, -, -, -, -, readEnding⟩ := parts_of_read? read
  refine ⟨⟨String.ofList reading.trail, ?_, ?_, ?_⟩, ?_⟩
  · rw [written_fields wellFormed.pairs, ← String.ofList_append, ← String.ofList_append]
    apply String.toList_inj.1
    rw [String.toList_ofList, ← written_of_read? read]
    simp only [Reading.written, List.append_assoc]
  · rw [String.toList_ofList]
    exact wellFormed.trail
  · intro some_text
    have some_text' : reading.text ≠ [] := by
      intro missing
      apply some_text
      show String.ofList reading.text = ""
      rw [missing]
    have no_trail : reading.trail = [] := trail_of_readEnding? readEnding some_text'
    rw [no_trail]
  · intro pairs wellFormed
    exact join_segment wellFormed

/-- A value that starts with a space, so that its pair is torn, and a key with a pair inside. -/
theorem eq_written_of_torn_pairs :
    ∃ fields, (classify "  a#x.b k=\" v w\" a=\"b\"c=\"d e\" \t").placed? = some (2, fields) ∧
      fields.attributes = ["k=\"", "v w\"", "a=\"b\"c=\"d", "e\""] ∧
      "  a#x.b k=\" v w\" a=\"b\"c=\"d e\" \t" =
        String.ofList (List.replicate 2 ' ') ++ fields.written := by
  have placed : (classify "  a#x.b k=\" v w\" a=\"b\"c=\"d e\" \t").placed? =
      some (2, ⟨"a", "x", ["", "b"], ["k=\"", "v w\"", "a=\"b\"c=\"d", "e\""], "\t"⟩) := by
    decide +kernel
  obtain ⟨⟨trail, line, -, missing⟩, -⟩ := eq_written_of_placed? placed
  refine ⟨_, placed, rfl, ?_⟩
  rwa [missing (by decide), String.append_empty] at line

end Shorthand.Line
