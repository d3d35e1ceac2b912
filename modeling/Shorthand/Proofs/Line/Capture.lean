import Shorthand.Proofs.Attribute.Recovery
import Shorthand.Proofs.Line.Grammar

/-!
# From the pairs of a line to its element

The attributes among the fields of a line are the segments of its pairs, and an element ignores
every attribute that is not a pair. So whether the pairs of a line reach its element is decided by
segmentation: they all do when every pair is whole, and when one is torn an attribute is left that
is no pair (`complete_iff_whole`).
-/

namespace Shorthand

open Attribute (Pair readPair? readPair?_ofList)

/-- The raw attributes come last; of them the element takes those that are pairs. -/
theorem Element.shorthandAttributes_eq (id : String) (classTokens rawAttributes : List String) :
    shorthandAttributes id classTokens rawAttributes =
      shorthandAttributes id classTokens [] ++ rawAttributes.filterMap readPair? := by
  simp only [shorthandAttributes, List.filterMap_nil, List.append_nil]

namespace Line

theorem attributes_fields (reading : Reading) : reading.fields.attributes =
    (Attribute.segmentRun (attributeRun reading.pairs)).map String.ofList := rfl

theorem complete_attributes_iff (reading : Reading) :
    (∀ raw ∈ reading.fields.attributes, (readPair? raw).isSome = true) ↔
      ∀ segment ∈ Attribute.segmentRun (attributeRun reading.pairs),
        (Pair.read? segment).isSome = true := by
  rw [attributes_fields, List.forall_mem_map]
  simp only [readPair?_ofList, Option.isSome_map]

theorem filterMap_attributes (reading : Reading) :
    reading.fields.attributes.filterMap readPair? =
      ((Attribute.segmentRun (attributeRun reading.pairs)).filterMap Pair.read?).map
        Pair.texts := by
  rw [attributes_fields, List.filterMap_map, List.map_filterMap]
  exact List.filterMap_congr fun segment _ => readPair?_ofList segment

/-- **What is captured reaches the element** exactly when every pair on the line is whole: then
each attribute is a complete pair, the pairs read from the attributes are those of the line, in
order, and the element takes all of them behind its id and its classes. -/
theorem complete_iff_whole {line : String} {depth : Nat} {fields : Fields}
    (h : (classify line).placed? = some (depth, fields)) :
    ∃ reading, read? line.toList = some reading ∧
      ((∀ raw ∈ fields.attributes, (readPair? raw).isSome = true) ↔
        ∀ pair ∈ reading.pairs, pair.Whole) ∧
      (fields.attributes.filterMap readPair? = reading.pairs.map Pair.texts ↔
        ∀ pair ∈ reading.pairs, pair.Whole) ∧
      ((∀ pair ∈ reading.pairs, pair.Whole) →
        fields.element.attributes = AttributeMap.empty.insertAll
          (Element.shorthandAttributes fields.id fields.classTokens [] ++
            reading.pairs.map Pair.texts)) := by
  obtain ⟨reading, read, known, -, rfl⟩ := exists_read?_of_placed? h
  have wellFormed := (wellFormed_of_read? read known).pairs
  have recovered : reading.fields.attributes.filterMap readPair? = reading.pairs.map Pair.texts ↔
      ∀ pair ∈ reading.pairs, pair.Whole := by
    rw [filterMap_attributes, List.map_inj_right fun _ _ same => Pair.texts_injective same]
    exact Attribute.filterMap_segmentRun_iff wellFormed
  refine ⟨reading, read, ?_, recovered, ?_⟩
  · rw [complete_attributes_iff]
    exact Attribute.complete_segmentRun_iff wellFormed
  · intro whole
    rw [← recovered.2 whole, ← Element.shorthandAttributes_eq]
    rfl

/-- A key with a quote in it and spaces in a value are kept. -/
theorem complete_iff_whole_with_spaces :
    ∃ fields, (classify " a#i d\"e=\"f  g \" class=\"h\" t").placed? = some (1, fields) ∧
      (∀ raw ∈ fields.attributes, (readPair? raw).isSome = true) ∧
      fields.element.attributes = AttributeMap.empty.insertAll
        [("id", "i"), ("d\"e", "f  g "), ("class", "h")] := by
  have placed : (classify " a#i d\"e=\"f  g \" class=\"h\" t").placed? =
      some (1, ⟨"a", "i", [""], ["d\"e=\"f  g \"", "class=\"h\""], "t"⟩) := by decide +kernel
  have pairs : (read? " a#i d\"e=\"f  g \" class=\"h\" t".toList).map (·.pairs) =
      some [⟨"d\"e".toList, "f  g ".toList⟩, ⟨"class".toList, ['h']⟩] := by decide +kernel
  obtain ⟨reading, read, complete, -, element⟩ := complete_iff_whole placed
  rw [read] at pairs
  have pairs' : reading.pairs = [⟨"d\"e".toList, "f  g ".toList⟩, ⟨"class".toList, ['h']⟩] :=
    Option.some.inj pairs
  have whole : ∀ pair ∈ reading.pairs, pair.Whole := by
    rw [pairs']
    intro pair member
    refine (Pair.whole_iff ?_).2 ?_
    all_goals revert pair; decide
  refine ⟨_, placed, complete.2 whole, (element whole).trans ?_⟩
  rw [pairs']
  rfl

/-- A value that starts with a space is lost. -/
theorem exists_incomplete_attribute :
    ∃ fields, (classify "p k=\" v\"").placed? = some (0, fields) ∧
      (∃ raw ∈ fields.attributes, readPair? raw = none) ∧
      fields.element.attributes = AttributeMap.empty :=
  ⟨⟨"p", "", [""], ["k=\"", "v\""], ""⟩, by decide +kernel, by decide +kernel, by decide +kernel⟩

end Line

end Shorthand
