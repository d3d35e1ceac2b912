import Shorthand.Json.Document
import Shorthand.Proofs.Json.Value

/-!
# JSON is faithful

A document can be read off its JSON text, compact or pretty: the text is that of one value only
(`Json.compact_injective`, `Json.pretty_injective`), and the value that of one document, since the
fields of an element are written in one order, and the last of them, the text, is there only when it
is set. No object in it gives a key twice.
-/

namespace Shorthand

/-- Whether no object in a value gives a key twice. -/
inductive Json.DistinctKeys : Json → Prop
  | text (value : String) : DistinctKeys (.text value)
  | list {items : List Json} (inside : ∀ item ∈ items, DistinctKeys item) :
    DistinctKeys (.list items)
  | object {fields : List (String × Json)} (keys : (fields.map (·.1)).Nodup)
      (inside : ∀ field ∈ fields, DistinctKeys field.2) : DistinctKeys (.object fields)

open Json (DistinctKeys)

namespace AttributeMap

theorem json_injective {first second : AttributeMap} (same : first.json = second.json) :
    first = second := by
  apply AttributeMap.ext
  refine (List.map_inj_right ?_).1 (Json.object.inj same)
  intro entry entry' fields
  obtain ⟨keys, values⟩ := Prod.mk.inj fields
  exact Prod.ext keys (Json.text.inj values)

theorem distinctKeys_json (attributes : AttributeMap) : DistinctKeys attributes.json := by
  refine .object ?_ ?_
  · rw [List.map_map]
    exact attributes.nodup
  · intro field member
    obtain ⟨entry, -, rfl⟩ := List.mem_map.1 member
    exact .text entry.2

end AttributeMap

namespace Element

theorem forestJson_eq_map (forest : List Element) : forestJson forest = forest.map json := by
  induction forest with
  | nil => rfl
  | cons element rest ih => rw [forestJson, ih, List.map_cons]

/-! ## One element for a value -/

theorem eq_of_map_json_eq {first second : List Element}
    (each : ∀ element ∈ first, ∀ other, element.json = other.json → element = other)
    (same : first.map json = second.map json) : first = second := by
  induction first generalizing second with
  | nil => exact (List.map_eq_nil_iff.1 same.symm).symm
  | cons element rest ih =>
    cases second with
    | nil => cases same
    | cons other others =>
      obtain ⟨heads, tails⟩ := List.cons.inj same
      rw [each element List.mem_cons_self other heads,
        ih (fun element member => each element (List.mem_cons_of_mem _ member)) tails]

theorem json_injective (first : Element) : ∀ second, first.json = second.json → first = second := by
  induction first using Element.induction with
  | step name attributes children text ih =>
  intro second same
  obtain ⟨name', attributes', children', text'⟩ := second
  simp only [json, forestJson_eq_map, Json.object.injEq, List.cons_append, List.nil_append,
    List.cons.injEq, Prod.mk.injEq, Json.text.injEq, Json.list.injEq, true_and] at same
  obtain ⟨rfl, maps, forests, texts⟩ := same
  obtain rfl := AttributeMap.json_injective maps
  have same_children : children = children' := eq_of_map_json_eq ih forests
  have same_text : text = text' := by
    cases text with
    | none =>
      cases text' with
      | none => rfl
      | some value' => cases texts
    | some value =>
      cases text' with
      | none => cases texts
      | some value' => simpa using texts
  rw [same_children, same_text]

theorem distinctKeys_json (element : Element) : DistinctKeys element.json := by
  induction element using Element.induction with
  | step name attributes children text ih =>
  have below : DistinctKeys (.list (forestJson children)) := by
    refine .list ?_
    intro item member
    rw [forestJson_eq_map] at member
    obtain ⟨child, child_member, rfl⟩ := List.mem_map.1 member
    exact ih child child_member
  have own : ∀ field ∈ [("name", Json.text name), ("attributes", attributes.json),
      ("children", .list (forestJson children))], DistinctKeys field.2 := by
    simp [attributes.distinctKeys_json, below, DistinctKeys.text]
  cases text with
  | none =>
    simp only [json, List.append_nil]
    exact .object (show ["name", "attributes", "children"].Nodup by decide) own
  | some value =>
    simp only [json]
    refine .object (show ["name", "attributes", "children", "text"].Nodup by decide) ?_
    intro field member
    rcases List.mem_append.1 member with member | member
    · exact own field member
    · obtain rfl := List.mem_singleton.1 member
      exact .text value

end Element

namespace Document

theorem json_injective {first second : Document} (same : first.json = second.json) :
    first = second := by
  obtain ⟨roots⟩ := first
  obtain ⟨roots'⟩ := second
  simp only [json, Element.forestJson_eq_map, Json.object.injEq, List.cons.injEq, Prod.mk.injEq,
    Json.list.injEq, true_and, and_true] at same
  rw [Element.eq_of_map_json_eq (fun element _ => Element.json_injective element) same]

theorem distinctKeys_json (document : Document) : DistinctKeys document.json := by
  refine .object (by simp) ?_
  intro field member
  obtain rfl := List.mem_singleton.1 member
  refine .list ?_
  intro item item_member
  rw [Element.forestJson_eq_map] at item_member
  obtain ⟨root, -, rfl⟩ := List.mem_map.1 item_member
  exact root.distinctKeys_json

/-- **JSON is faithful.** Two documents have the same compact text, or the same pretty text, only if
they are the same in every part, and no object in the text of a document gives a key twice. -/
theorem json_faithful (first second : Document) :
    (first.json.compact = second.json.compact ↔ first = second) ∧
      (first.json.pretty = second.json.pretty ↔ first = second) ∧
      DistinctKeys first.json ∧ DistinctKeys second.json := by
  refine ⟨⟨fun same => ?_, fun same => by rw [same]⟩, ⟨fun same => ?_, fun same => by rw [same]⟩,
    first.distinctKeys_json, second.distinctKeys_json⟩
  · exact json_injective (Json.compact_injective same)
  · exact json_injective (Json.pretty_injective same)

end Document

end Shorthand
