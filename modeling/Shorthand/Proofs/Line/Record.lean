import Mathlib.Data.List.Infix
import Mathlib.Tactic.MkIffOfInductiveProp
import Shorthand.Proofs.Line.Endings
import Shorthand.Proofs.Line.Plain

/-!
# Writing a line

A record holds the parts of one element as someone would write them down: names of classes instead
of a class run, keys with values instead of segments. Its line is the parts in order, each behind
its mark. When the record is well-formed nothing in the line can be read otherwise, so classifying
the line gives the parts back (`placed?_line`).
-/

namespace Shorthand

open Line (Fields Reading marked markedText attributeRun classify)
open LineEndings (OneLine oneLine_append oneLine_join)

/-- The parts of one element. An id and a text that are missing are empty. -/
structure Record where
  tag : String
  id : String
  classes : List String
  attributes : List (String × String)
  text : String
deriving DecidableEq, Repr

namespace Record

/-- The attributes as they are written, each with its value in quotes. -/
def pairTexts (record : Record) : List String :=
  record.attributes.map fun entry => entry.1 ++ "=\"" ++ entry.2 ++ "\""

/-- The line of a record that stands at the given depth. -/
def line (record : Record) (depth : Nat) : String :=
  String.ofList (List.replicate depth ' ') ++ record.tag ++ markedText "#" record.id ++
    String.join (record.classes.map ("." ++ ·)) ++ String.join (record.pairTexts.map (" " ++ ·)) ++
    markedText " " record.text

/-- The fields that the line of a record has. -/
def fields (record : Record) : Fields :=
  ⟨record.tag, record.id, "" :: record.classes, record.pairTexts, record.text⟩

/-- The element that a record describes. -/
def element (record : Record) : Element :=
  Element.ofShorthand record.tag record.id ("" :: record.classes) record.pairTexts record.text

/-- All that is written of a record. -/
def texts (record : Record) : List String :=
  record.tag :: record.id :: record.text ::
    (record.classes ++ record.attributes.flatMap fun entry => [entry.1, entry.2])

/-- A record whose line can be read in one way only: no part holds a character that would end it,
no value starts with a space, and the text neither opens a pair nor closes one that a last value
with an equals sign at its end would open. -/
@[mk_iff] structure WellFormed (record : Record) : Prop where
  tag : isShorthandTag record.tag = true
  id : ∀ c ∈ record.id.toList, c ≠ ' ' ∧ c ≠ '.'
  classes : ∀ name ∈ record.classes, name ≠ "" ∧ ∀ c ∈ name.toList, c ≠ ' ' ∧ c ≠ '.'
  keys : ∀ entry ∈ record.attributes, entry.1 ≠ "" ∧ ∀ c ∈ entry.1.toList, c ≠ ' ' ∧ c ≠ '"'
  values : ∀ entry ∈ record.attributes,
    entry.2 ≠ "" ∧ '"' ∉ entry.2.toList ∧ entry.2.toList.head? ≠ some ' '
  text : ¬ ['=', '"'] <:+: record.text.toList
  last : ∀ entry ∈ record.attributes.getLast?, entry.2.toList.getLast? = some '=' →
    '"' ∉ record.text.toList
  oneLine : ∀ text ∈ record.texts, OneLine text

instance (record : Record) : Decidable record.WellFormed :=
  decidable_of_iff' _ (wellFormed_iff record)

/-! ## The reading of a record -/

def pair (entry : String × String) : Attribute.Pair := ⟨entry.1.toList, entry.2.toList⟩

def reading (record : Record) (depth : Nat) : Reading where
  depth := depth
  tag := record.tag.toList
  id := record.id.toList
  classRun := record.classes.flatMap fun name => '.' :: name.toList
  pairs := record.attributes.map pair
  text := record.text.toList
  trail := []

theorem ofList_written_pair (entry : String × String) :
    String.ofList (pair entry).written = entry.1 ++ "=\"" ++ entry.2 ++ "\"" := by
  apply String.toList_inj.1
  rw [String.toList_ofList]
  simp [pair, Attribute.Pair.written]

theorem toList_markedText (mark : Char) (part : String) :
    (markedText (String.ofList [mark]) part).toList = marked mark part.toList := by
  rw [← String.ofList_toList (s := part), Line.markedText_ofList, String.toList_ofList,
    String.toList_ofList]

theorem line_eq_written (record : Record) (depth : Nat) :
    record.line depth = String.ofList (record.reading depth).written := by
  have id := toList_markedText '#' record.id
  have text := toList_markedText ' ' record.text
  have classes : (String.join (record.classes.map ("." ++ ·))).toList =
      record.classes.flatMap fun name => '.' :: name.toList := by
    rw [String.toList_join, List.flatMap_map]
    simp
  have pairs : (String.join (record.pairTexts.map (" " ++ ·))).toList =
      attributeRun (record.attributes.map pair) := by
    rw [String.toList_join, pairTexts, List.map_map, List.flatMap_map, attributeRun,
      List.flatMap_map]
    simp [← ofList_written_pair]
  apply String.toList_inj.1
  rw [line]
  simp only [String.toList_append, String.toList_ofList, classes, pairs]
  rw [show "#" = String.ofList ['#'] from rfl, show " " = String.ofList [' '] from rfl, id, text]
  simp only [Reading.written, reading, List.append_nil]

theorem WellFormed.plain_pair {record : Record} (wellFormed : record.WellFormed)
    {entry : String × String} (member : entry ∈ record.attributes) : (pair entry).Plain := by
  obtain ⟨some_key, key⟩ := wellFormed.keys entry member
  obtain ⟨some_value, no_quote, start⟩ := wellFormed.values entry member
  refine ⟨⟨?_, ?_, ?_, no_quote⟩, ?_, start⟩
  · exact fun missing => some_key (String.toList_eq_nil_iff.1 missing)
  · exact fun member => (key _ member).1 rfl
  · exact fun missing => some_value (String.toList_eq_nil_iff.1 missing)
  · exact fun member => (key _ member).2 rfl

theorem WellFormed.isClassRun {record : Record} (wellFormed : record.WellFormed) (depth : Nat) :
    (record.reading depth).classRun = [] ∨ Line.IsClassRun (record.reading depth).classRun := by
  have names := wellFormed.classes
  show record.classes.flatMap _ = [] ∨ Line.IsClassRun (record.classes.flatMap _)
  cases classes : record.classes with
  | nil => exact .inl rfl
  | cons name others =>
    rw [classes] at names
    have some_name : name.toList ≠ [] := fun missing =>
      (names name List.mem_cons_self).1 (String.toList_eq_nil_iff.1 missing)
    refine .inr ⟨_, List.flatMap_cons, List.append_ne_nil_of_left_ne_nil some_name _, ?_⟩
    intro member
    rcases List.mem_append.1 member with first | behind
    · exact ((names name List.mem_cons_self).2 ' ' first).1 rfl
    · obtain ⟨other, other_member, member⟩ := List.mem_flatMap.1 behind
      rcases List.mem_cons.1 member with dot | member
      · cases dot
      · exact ((names other (List.mem_cons_of_mem name other_member)).2 ' ' member).1 rfl

theorem WellFormed.plain_reading {record : Record} (wellFormed : record.WellFormed)
    (depth : Nat) : (record.reading depth).Plain := by
  have pairs : ∀ pair ∈ (record.reading depth).pairs, pair.Plain := by
    intro pair member
    obtain ⟨entry, entry_member, rfl⟩ := List.mem_map.1 member
    exact wellFormed.plain_pair entry_member
  have no_feed : '\n' ∉ record.text.toList := by
    intro member
    exact (wellFormed.oneLine record.text (by simp [texts]) _ member).1 rfl
  refine ⟨⟨?_, wellFormed.id, wellFormed.isClassRun depth, fun pair member =>
    (pairs pair member).wellFormed, no_feed, by simp [reading]⟩, pairs, wellFormed.text, ?_, rfl⟩
  · rw [reading, String.ofList_toList]
    exact wellFormed.tag
  · intro pair is_last
    rw [reading, List.getLast?_map] at is_last
    obtain ⟨entry, last_entry, rfl⟩ := Option.map_eq_some_iff.1 is_last
    exact wellFormed.last entry last_entry

theorem fields_reading {record : Record} (wellFormed : record.WellFormed) (depth : Nat) :
    { (record.reading depth).fields with
      attributes := (record.reading depth).pairs.map fun pair => String.ofList pair.written } =
        record.fields := by
  have classes : Text.splitOn '.' (record.reading depth).classRun =
      [] :: record.classes.map String.toList := by
    have names : ∀ name ∈ record.classes, Text.splitOn '.' name.toList = [name.toList] := by
      intro name member
      apply Text.splitOn_of_not_mem
      exact fun dot => ((wellFormed.classes name member).2 '.' dot).2 rfl
    have cut := Text.splitOn_append_flatMap '.' [] record.classes String.toList
    rw [List.nil_append, List.flatMap_congr names] at cut
    rw [List.map_eq_flatMap]
    exact cut
  have attributes : (record.reading depth).pairs.map (fun pair => String.ofList pair.written) =
      record.pairTexts := by
    rw [reading, List.map_map, pairTexts]
    exact List.map_congr_left fun entry _ => ofList_written_pair entry
  rw [attributes, Reading.fields, classes]
  simp [fields, reading]

/-- **A line is read as it was written.** -/
theorem placed?_line {record : Record} (wellFormed : record.WellFormed) (depth : Nat) :
    (classify (record.line depth)).placed? = some (depth, record.fields) := by
  rw [line_eq_written, Line.classify_written (wellFormed.plain_reading depth),
    fields_reading wellFormed]
  rfl

/-! ## One line -/

theorem oneLine_markedText {mark part : String} (h : OneLine mark) (h' : OneLine part) :
    OneLine (markedText mark part) := by
  unfold markedText
  split
  · simp [OneLine]
  · exact oneLine_append h h'

theorem WellFormed.oneLine_line {record : Record} (wellFormed : record.WellFormed) (depth : Nat) :
    OneLine (record.line depth) := by
  have parts := wellFormed.oneLine
  have indent : OneLine (String.ofList (List.replicate depth ' ')) := by
    intro c member
    rw [String.toList_ofList] at member
    rw [List.eq_of_mem_replicate member]
    decide
  have classes : OneLine (String.join (record.classes.map ("." ++ ·))) := by
    apply oneLine_join
    intro part member
    obtain ⟨name, name_member, rfl⟩ := List.mem_map.1 member
    exact oneLine_append (by decide) (parts name (by simp [texts, name_member]))
  have pairs : OneLine (String.join (record.pairTexts.map (" " ++ ·))) := by
    apply oneLine_join
    intro part member
    obtain ⟨text, text_member, rfl⟩ := List.mem_map.1 member
    obtain ⟨entry, entry_member, rfl⟩ := List.mem_map.1 text_member
    have sides : ∀ side ∈ [entry.1, entry.2], side ∈ record.texts := by
      intro side side_member
      simp only [texts, List.mem_cons, List.mem_append, List.mem_flatMap]
      exact .inr (.inr (.inr (.inr ⟨entry, entry_member, by simpa using side_member⟩)))
    have key := sides entry.1 (by simp)
    have value := sides entry.2 (by simp)
    exact oneLine_append (by decide) (oneLine_append (oneLine_append (oneLine_append
      (parts _ key) (by decide)) (parts _ value)) (by decide))
  have tag : OneLine record.tag := parts _ (by simp [texts])
  have id : OneLine (markedText "#" record.id) :=
    oneLine_markedText (by decide) (parts _ (by simp [texts]))
  have text : OneLine (markedText " " record.text) :=
    oneLine_markedText (by decide) (parts _ (by simp [texts]))
  exact oneLine_append (oneLine_append (oneLine_append (oneLine_append (oneLine_append indent tag)
    id) classes) pairs) text

end Record

end Shorthand
