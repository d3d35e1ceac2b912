import Shorthand.Proofs.Attribute.Pair
import Shorthand.Proofs.Attribute.Segment

/-!
# Pairs recovered from segments

No character of a run is lost when it is cut into segments, but a pair can be: the second part of
a torn pair holds one quote only, and no pair is read from it (`Pair.read?_remainder`). A whole
pair is one segment, and it is read from that. So a run gives its pairs back, all of its segments
are pairs, and there are as many of them as pairs, under one and the same condition: that every
pair is whole (`filterMap_segmentRun_iff`, `complete_segmentRun_iff`, `length_segmentRun`).
-/

namespace Shorthand.Attribute

open Line (attributeRun)

/-! ## The segments of one pair -/

namespace Pair

variable {pair : Pair}

/-- The key and the value, as texts. -/
def texts (pair : Pair) : String × String := (String.ofList pair.key, String.ofList pair.value)

theorem texts_injective : Function.Injective texts := by
  rintro ⟨key, value⟩ ⟨key', value'⟩ same
  obtain ⟨keys, values⟩ := Prod.mk.inj same
  obtain rfl : key = key' := String.ofList_inj.1 keys
  obtain rfl : value = value' := String.ofList_inj.1 values
  rfl

theorem read?_written (wellFormed : pair.WellFormed) : read? pair.written = some pair :=
  read?_eq_some.2 ⟨rfl, wellFormed⟩

/-- What is left behind the first space of a value has the closing quote only. -/
theorem read?_remainder (no_quote : '"' ∉ pair.value) : read? pair.remainder = none := by
  rw [Option.eq_none_iff_forall_ne_some]
  intro other found
  obtain ⟨written, wellFormed⟩ := read?_eq_some.1 found
  have holds : holdsPair pair.remainder = true :=
    holdsPair_iff.2 ⟨other, [], by rw [written, List.append_nil], wellFormed⟩
  have no_quote' : '"' ∉ (pair.value.dropWhile (· ≠ ' ')).tail := by
    intro member
    exact no_quote ((List.dropWhile_sublist _).subset (List.mem_of_mem_tail member))
  have := two_le_count_of_holdsPair holds
  rw [remainder, List.count_append, List.count_eq_zero.2 no_quote'] at this
  simp at this

/-- The first part of a torn pair may be a pair, but never the torn one. -/
theorem read?_opening_ne (torn : pair.Torn) : read? pair.opening ≠ some pair := by
  intro found
  have written := (read?_eq_some.1 found).1
  have lengths := congrArg List.length (written.trans (written_of_space torn.1))
  simp at lengths

theorem complete_segments_iff (wellFormed : pair.WellFormed) :
    (∀ segment ∈ pair.segments, (read? segment).isSome = true) ↔ pair.Whole := by
  obtain ⟨-, -, -, no_quote⟩ := id wellFormed
  rw [whole_iff no_quote, segments]
  by_cases torn : pair.Torn
  · simp [torn, read?_remainder no_quote]
  · simp [torn, read?_written wellFormed]

/-- A pair is read from its segments if it is whole, and else something else or nothing. -/
theorem filterMap_segments_iff (wellFormed : pair.WellFormed) :
    pair.segments.filterMap read? = [pair] ↔ pair.Whole := by
  obtain ⟨-, -, -, no_quote⟩ := id wellFormed
  rw [whole_iff no_quote, segments]
  by_cases torn : pair.Torn
  · have other := read?_opening_ne torn
    cases found : read? pair.opening with
    | none => simp [torn, found, read?_remainder no_quote]
    | some first =>
      rw [found] at other
      simpa [torn, found, read?_remainder no_quote] using other
  · simp [torn, read?_written wellFormed]

theorem length_filterMap_segments_le (no_quote : '"' ∉ pair.value) :
    (pair.segments.filterMap read?).length ≤ 1 := by
  rw [segments]
  by_cases torn : pair.Torn
  · rw [if_pos torn]
    cases found : read? pair.opening <;> simp [found, read?_remainder no_quote]
  · rw [if_neg torn]
    exact List.length_filterMap_le _ _

theorem length_segments (pair : Pair) :
    pair.segments.length = 1 + if pair.Torn then 1 else 0 := by
  unfold segments
  split <;> rfl

end Pair

/-! ## The segments of a run -/

theorem length_flatMap_le {α : Type} {items : List α} {part : α → List α}
    (short : ∀ item ∈ items, (part item).length ≤ 1) :
    (items.flatMap part).length ≤ items.length := by
  induction items with
  | nil => exact Nat.le_refl 0
  | cons item rest ih =>
    obtain ⟨first, others⟩ := List.forall_mem_cons.1 short
    have behind := ih others
    rw [List.flatMap_cons, List.length_append, List.length_cons]
    omega

/-- Where every item gives one at most, the whole list comes back only if every item gives
itself. -/
theorem flatMap_eq_self_iff {α : Type} {items : List α} {part : α → List α}
    (short : ∀ item ∈ items, (part item).length ≤ 1) :
    items.flatMap part = items ↔ ∀ item ∈ items, part item = [item] := by
  constructor
  · intro same
    induction items with
    | nil => simp
    | cons item rest ih =>
      obtain ⟨first, others⟩ := List.forall_mem_cons.1 short
      rw [List.flatMap_cons] at same
      have total := congrArg List.length same
      have behind := length_flatMap_le others
      rw [List.length_append, List.length_cons] at total
      obtain ⟨found, gives⟩ := List.length_eq_one_iff.1 (show (part item).length = 1 by omega)
      rw [gives, List.singleton_append] at same
      obtain ⟨rfl, tails⟩ := List.cons.inj same
      exact List.forall_mem_cons.2 ⟨gives, ih others tails⟩
  · intro same
    rw [List.flatMap_congr same, List.flatMap_singleton']

variable {pairs : List Pair}

theorem complete_segmentRun_iff (wellFormed : ∀ pair ∈ pairs, Pair.WellFormed pair) :
    (∀ segment ∈ segmentRun (attributeRun pairs), (Pair.read? segment).isSome = true) ↔
      ∀ pair ∈ pairs, pair.Whole := by
  rw [segmentRun_attributeRun wellFormed, List.forall_mem_flatMap]
  exact forall₂_congr fun pair member => Pair.complete_segments_iff (wellFormed pair member)

theorem filterMap_segmentRun_iff (wellFormed : ∀ pair ∈ pairs, Pair.WellFormed pair) :
    (segmentRun (attributeRun pairs)).filterMap Pair.read? = pairs ↔
      ∀ pair ∈ pairs, pair.Whole := by
  have short : ∀ pair ∈ pairs, (pair.segments.filterMap Pair.read?).length ≤ 1 := by
    intro pair member
    obtain ⟨-, -, -, no_quote⟩ := wellFormed pair member
    exact Pair.length_filterMap_segments_le no_quote
  rw [segmentRun_attributeRun wellFormed, List.filterMap_flatMap, flatMap_eq_self_iff short]
  exact forall₂_congr fun pair member => Pair.filterMap_segments_iff (wellFormed pair member)

theorem length_segmentRun (wellFormed : ∀ pair ∈ pairs, Pair.WellFormed pair) :
    (segmentRun (attributeRun pairs)).length =
      pairs.length + pairs.countP fun pair => decide pair.Torn := by
  rw [segmentRun_attributeRun wellFormed]
  clear wellFormed
  induction pairs with
  | nil => rfl
  | cons pair pairs ih =>
    rw [List.flatMap_cons, List.length_append, Pair.length_segments, ih, List.length_cons,
      List.countP_cons]
    simp only [decide_eq_true_eq]
    omega

/-- A torn pair leaves more segments than pairs. -/
theorem segmentRun_eq_map_written_iff (wellFormed : ∀ pair ∈ pairs, Pair.WellFormed pair) :
    segmentRun (attributeRun pairs) = pairs.map Pair.written ↔ ∀ pair ∈ pairs, pair.Whole := by
  constructor
  · intro same pair member
    obtain ⟨-, -, -, no_quote⟩ := wellFormed pair member
    have lengths := length_segmentRun wellFormed
    rw [same, List.length_map] at lengths
    have none_torn := List.countP_eq_zero.1 (show pairs.countP (fun pair => decide pair.Torn) = 0 by
      omega) pair member
    rw [Pair.whole_iff no_quote]
    simpa using none_torn
  · exact segmentRun_eq_map_written wellFormed

/-! ## Texts -/

theorem readPair?_ofList (text : List Char) :
    readPair? (String.ofList text) = (Pair.read? text).map Pair.texts := by
  rw [readPair?, String.toList_ofList]
  rfl

theorem segment_ofList (run : List Char) :
    segment (String.ofList run) = (segmentRun run).map String.ofList := by
  rw [segment, String.toList_ofList]

/-- **Segmentation recovers the pairs** of a run whose keys have no quotes exactly when no value
starts with a space: then the segments are the pairs as they are written and are read back to the
pairs themselves. In every case a value that starts with a space makes one segment more. -/
theorem segment_recovers (wellFormed : ∀ pair ∈ pairs, Pair.WellFormed pair)
    (keys : ∀ pair ∈ pairs, '"' ∉ pair.key) :
    (segment (String.ofList (attributeRun pairs)) =
        pairs.map (fun pair => String.ofList pair.written) ↔
      ∀ pair ∈ pairs, pair.value.head? ≠ some ' ') ∧
    ((∀ pair ∈ pairs, pair.value.head? ≠ some ' ') →
      (segment (String.ofList (attributeRun pairs))).map readPair? =
        pairs.map fun pair => some (String.ofList pair.key, String.ofList pair.value)) ∧
    (segment (String.ofList (attributeRun pairs))).length =
      pairs.length + pairs.countP fun pair => decide (pair.value.head? = some ' ') := by
  have whole : ∀ pair ∈ pairs, (pair.Whole ↔ pair.value.head? ≠ some ' ') :=
    fun pair member => Pair.whole_iff_of_no_quote (keys pair member)
  have texts : pairs.map (fun pair => String.ofList pair.written) =
      (pairs.map Pair.written).map String.ofList := by
    rw [List.map_map]
    rfl
  rw [segment_ofList, texts]
  refine ⟨?_, ?_, ?_⟩
  · rw [List.map_inj_right fun _ _ => String.ofList_inj.1, segmentRun_eq_map_written_iff wellFormed]
    exact forall₂_congr whole
  · intro starts
    have same := segmentRun_eq_map_written wellFormed
      fun pair member => (whole pair member).2 (starts pair member)
    rw [same, List.map_map, List.map_map]
    refine List.map_congr_left fun pair member => ?_
    show readPair? (String.ofList pair.written) = _
    rw [readPair?_ofList, Pair.read?_written (wellFormed pair member)]
    rfl
  · rw [List.length_map, length_segmentRun wellFormed]
    congr 1
    refine List.countP_congr fun pair member => ?_
    obtain ⟨-, -, -, no_quote⟩ := wellFormed pair member
    have torn := (Pair.whole_iff no_quote).symm.trans (whole pair member)
    simpa using not_iff_not.1 torn

/-- Spaces inside a value and at its end do no harm; of three values here, two start with one. -/
theorem segment_recovers_spaced :
    (segment " title=\"a  b \" x==\"1\n= 2\"").map readPair? =
        [some ("title", "a  b "), some ("x=", "1\n= 2")] ∧
      (segment " k=\" v\" j=\"w\" i=\"  \"").length = 3 + 2 ∧
      segment " k=\" v\" j=\"w\" i=\"  \"" ≠ ["k=\" v\"", "j=\"w\"", "i=\"  \""] := by
  have whole := @segment_recovers
    [⟨"title".toList, "a  b ".toList⟩, ⟨"x=".toList, "1\n= 2".toList⟩] (by decide) (by decide)
  have torn := @segment_recovers
    [⟨['k'], [' ', 'v']⟩, ⟨['j'], ['w']⟩, ⟨['i'], [' ', ' ']⟩] (by decide) (by decide)
  exact ⟨whole.2.1 (by decide), torn.2.2, fun same => absurd (torn.1.1 same) (by decide)⟩

end Shorthand.Attribute
