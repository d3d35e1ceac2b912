import Mathlib.Data.List.Basic
import Shorthand.Attribute.Segment
import Shorthand.Line.Reading

/-!
# Segments of the pairs of a run

A run of pairs is cut at its spaces and glued together again without knowing where a pair ends.
Still the pairs do not mix: whatever is collected is closed by the quote at the end of the same
pair, so a run is cut pair by pair (`segmentRun_attributeRun`), and joining the segments gives the
run back (`flatMap_segmentRun`). A pair is left whole or torn in two at the first space of its
value (`Pair.segments`). Which it is can be told from the pair itself (`Pair.whole_iff`); when its
key has no quote, it is torn just when its value starts with a space
(`Pair.whole_iff_of_no_quote`).
-/

namespace Shorthand.Attribute

open Text (splitOn)
open Line (attributeRun)

/-! ## Tokens -/

/-- A pair has a quote on either side of its value. -/
theorem two_le_count_of_holdsPair {token : List Char} (h : holdsPair token = true) :
    2 ≤ token.count '"' := by
  obtain ⟨pair, rest, rfl, -⟩ := holdsPair_iff.1 h
  simp only [Pair.written, List.count_append, List.count_cons, beq_self_eq_true, if_true]
  omega

theorem holdsPair_of_count_lt {token : List Char} (h : token.count '"' < 2) :
    holdsPair token = false := by
  cases holds : holdsPair token with
  | false => rfl
  | true =>
    have := two_le_count_of_holdsPair holds
    omega

theorem glue_of_no_quote {token : List Char} (no_quote : '"' ∉ token) (collected : List Char)
    (tokens : List (List Char)) :
    glue collected (token :: tokens) = glue (collected ++ token ++ [' ']) tokens := by
  have holds : holdsPair token = false := by
    apply holdsPair_of_count_lt
    rw [List.count_eq_zero.2 no_quote]
    omega
  have last : token.getLast? ≠ some '"' := by
    intro last
    exact no_quote (List.mem_of_getLast? last)
  rw [glue, if_neg (by simp [holds]), if_neg last]

theorem glue_closing {token : List Char} (no_quote : '"' ∉ token) (collected : List Char)
    (tokens : List (List Char)) :
    glue collected ((token ++ ['"']) :: tokens) =
      (collected ++ token ++ ['"']) :: glue [] tokens := by
  have holds : holdsPair (token ++ ['"']) = false := by
    apply holdsPair_of_count_lt
    rw [List.count_append, List.count_eq_zero.2 no_quote]
    decide
  rw [glue, if_neg (by simp [holds]), if_pos List.getLast?_concat, List.append_assoc]

/-- What is left of a value is collected up to the closing quote, with its spaces. -/
theorem glue_splitOn_closing {rest : List Char} (no_quote : '"' ∉ rest) (collected : List Char)
    (tokens : List (List Char)) :
    glue collected (splitOn ' ' (rest ++ ['"']) ++ tokens) =
      (collected ++ rest ++ ['"']) :: glue [] tokens := by
  -- every space of what is left takes one token away from it
  induction size : rest.length using Nat.strongRecOn generalizing rest collected with
  | ind n ih =>
    by_cases space : ' ' ∈ rest
    · obtain ⟨first, behind, rfl, no_space⟩ := List.eq_append_cons_of_mem space
      simp only [List.mem_append, List.mem_cons, not_or] at no_quote
      obtain ⟨no_quote_first, -, no_quote_behind⟩ := no_quote
      simp only [List.length_append, List.length_cons] at size
      rw [List.append_assoc, List.cons_append, Text.splitOn_append_cons,
        Text.splitOn_of_not_mem no_space, List.append_assoc, List.singleton_append,
        glue_of_no_quote no_quote_first, ih _ (by omega) no_quote_behind _ rfl]
      simp only [List.append_assoc, List.cons_append, List.nil_append]
    · have no_space : ' ' ∉ rest ++ ['"'] := by simpa using space
      rw [Text.splitOn_of_not_mem no_space, List.singleton_append, glue_closing no_quote]

/-! ## One pair -/

namespace Pair

/-- A pair up to the first space of its value. -/
def opening (pair : Pair) : List Char :=
  pair.key ++ '=' :: '"' :: pair.value.takeWhile (· ≠ ' ')

/-- A pair from behind the first space of its value. -/
def remainder (pair : Pair) : List Char := (pair.value.dropWhile (· ≠ ' ')).tail ++ ['"']

/-- Whether the part of a pair in front of the first space of its value passes for a segment of
its own: when there is a pair inside the key, or when the value starts with the space, so that
its opening quote looks like a closing one. -/
def Torn (pair : Pair) : Prop :=
  ' ' ∈ pair.value ∧ (holdsPair pair.opening = true ∨ pair.opening.getLast? = some '"')

instance (pair : Pair) : Decidable pair.Torn := by
  unfold Torn
  infer_instance

/-- The segments that a pair is cut into. -/
def segments (pair : Pair) : List (List Char) :=
  if pair.Torn then [pair.opening, pair.remainder] else [pair.written]

variable {pair : Pair}

theorem exists_value_eq (space : ' ' ∈ pair.value) :
    ∃ first rest, pair.value = first ++ ' ' :: rest ∧ ' ' ∉ first ∧
      pair.opening = pair.key ++ '=' :: '"' :: first ∧ pair.remainder = rest ++ ['"'] := by
  obtain ⟨first, rest, value, no_space⟩ := List.eq_append_cons_of_mem space
  have before : ∀ c ∈ first, decide (c ≠ ' ') = true := by
    intro c member
    rw [decide_eq_true_eq]
    rintro rfl
    exact no_space member
  refine ⟨first, rest, value, no_space, ?_, ?_⟩
  · rw [opening, value, List.takeWhile_append_of_pos before,
      List.takeWhile_cons_of_neg (by simp), List.append_nil]
  · rw [remainder, value, List.dropWhile_append_of_pos before,
      List.dropWhile_cons_of_neg (by simp), List.tail_cons]

theorem written_of_space (space : ' ' ∈ pair.value) :
    pair.written = pair.opening ++ ' ' :: pair.remainder := by
  obtain ⟨first, rest, value, -, opening, remainder⟩ := exists_value_eq space
  rw [opening, remainder, written, value]
  simp only [List.append_assoc, List.cons_append]

theorem flatMap_segments (pair : Pair) :
    pair.segments.flatMap (' ' :: ·) = ' ' :: pair.written := by
  unfold segments
  by_cases torn : pair.Torn
  · rw [if_pos torn, written_of_space torn.1]
    simp
  · rw [if_neg torn]
    simp

/-- **A pair closes what it opens**: the tokens of a pair become its segments, and nothing of it is
left to be glued to what follows. -/
theorem glue_written (wellFormed : pair.WellFormed) (tokens : List (List Char)) :
    glue [] (splitOn ' ' pair.written ++ tokens) = pair.segments ++ glue [] tokens := by
  obtain ⟨-, key_no_space, -, no_quote⟩ := id wellFormed
  by_cases space : ' ' ∈ pair.value
  · obtain ⟨first, rest, value, no_space, opening, remainder⟩ := exists_value_eq space
    have no_quote_rest : '"' ∉ rest := by
      intro member
      exact no_quote (by simp [value, member])
    have one_token : ' ' ∉ pair.opening := by simp [opening, key_no_space, no_space]
    rw [written_of_space space, Text.splitOn_append_cons, Text.splitOn_of_not_mem one_token,
      List.append_assoc, List.singleton_append, glue, segments]
    by_cases holds : holdsPair pair.opening = true
    · rw [if_pos holds, if_pos ⟨space, .inl holds⟩, remainder, glue_splitOn_closing no_quote_rest]
      rfl
    · rw [if_neg holds]
      by_cases closed : pair.opening.getLast? = some '"'
      · rw [if_pos closed, if_pos ⟨space, .inr closed⟩, remainder,
          glue_splitOn_closing no_quote_rest]
        rfl
      · have whole : ¬ pair.Torn := fun torn => torn.2.elim holds closed
        rw [if_neg closed, if_neg whole, remainder, glue_splitOn_closing no_quote_rest,
          written_of_space space, remainder]
        simp
  · have one_token : ' ' ∉ pair.written := by simp [written, key_no_space, space]
    have holds : holdsPair pair.written = true :=
      holdsPair_iff.2 ⟨pair, [], (List.append_nil _).symm, wellFormed⟩
    have whole : ¬ pair.Torn := fun torn => space torn.1
    rw [Text.splitOn_of_not_mem one_token, List.singleton_append, glue, if_pos holds, segments,
      if_neg whole, List.singleton_append]

/-! ## Whole pairs -/

/-- A pair that stays whole: its value has no space, or it does not start with one and there is no
pair to be read in what stands up to the quote that opens it. -/
def Whole (pair : Pair) : Prop :=
  ' ' ∈ pair.value → pair.value.head? ≠ some ' ' ∧
    ∀ inner : Pair, inner.WellFormed → ¬ inner.written <+: pair.key ++ ['=', '"']

theorem holdsPair_iff_isPrefix {token : List Char} :
    holdsPair token = true ↔ ∃ inner : Pair, inner.WellFormed ∧ inner.written <+: token := by
  rw [holdsPair_iff]
  constructor
  · rintro ⟨inner, rest, rfl, wellFormed⟩
    exact ⟨inner, wellFormed, List.prefix_append _ _⟩
  · rintro ⟨inner, wellFormed, rest, rfl⟩
    exact ⟨inner, rest, rfl, wellFormed⟩

/-- A pair ends with a quote, so it does not reach into what has none. -/
theorem isPrefix_append_iff {text behind : List Char} (no_quote : '"' ∉ behind) :
    pair.written <+: text ++ behind ↔ pair.written <+: text := by
  constructor
  · rintro ⟨rest, split⟩
    rcases List.append_eq_append_iff.1 split with ⟨more, rfl, -⟩ | ⟨more, written, tail⟩
    · exact List.prefix_append _ _
    · have no_more : more = [] := by
        by_contra some_more
        have last : more.getLast? = some '"' := by
          rw [← List.getLast?_append_of_ne_nil text some_more, ← written]
          exact List.getLast?_concat
        exact no_quote (by simp [tail, List.mem_of_getLast? last])
      rw [no_more, List.append_nil] at written
      exact ⟨[], by rw [List.append_nil, written]⟩
  · intro within
    exact within.trans (List.prefix_append _ _)

/-- Of the value only its first character matters: what stands in front of its first space ends
with a quote when there is nothing of the value in it. -/
theorem whole_iff (no_quote : '"' ∉ pair.value) : pair.Whole ↔ ¬ pair.Torn := by
  by_cases space : ' ' ∈ pair.value
  · obtain ⟨first, rest, value, no_space, opening, -⟩ := exists_value_eq space
    have no_quote_first : '"' ∉ first := by
      intro member
      exact no_quote (by simp [value, member])
    have opening' : pair.opening = (pair.key ++ ['=', '"']) ++ first := by simp [opening]
    have holds : holdsPair pair.opening = true ↔
        ∃ inner : Pair, inner.WellFormed ∧ inner.written <+: pair.key ++ ['=', '"'] := by
      rw [holdsPair_iff_isPrefix, opening']
      simp only [isPrefix_append_iff no_quote_first]
    have closed : pair.opening.getLast? = some '"' ↔ pair.value.head? = some ' ' := by
      cases first with
      | nil => simp [opening, value]
      | cons c first =>
        have start : pair.value.head? ≠ some ' ' := by
          rw [value]
          rintro ⟨⟩
          exact no_space List.mem_cons_self
        have last : pair.opening.getLast? ≠ some '"' := by
          rw [opening', List.getLast?_append_of_ne_nil _ (List.cons_ne_nil c first)]
          exact fun last => no_quote_first (List.mem_of_getLast? last)
        exact iff_of_false last start
    simp only [Whole, Torn, space, holds, closed, true_and, forall_const, not_or, not_exists,
      not_and]
    exact and_comm
  · exact iff_of_true (fun member => absurd member space) fun torn => space torn.1

/-- With no quote in the key there is no pair in front of the value. -/
theorem whole_iff_of_no_quote (key : '"' ∉ pair.key) :
    pair.Whole ↔ pair.value.head? ≠ some ' ' := by
  constructor
  · intro whole start
    exact (whole (List.mem_of_mem_head? start)).1 start
  · intro start _
    refine ⟨start, ?_⟩
    intro inner wellFormed within
    have := two_le_count_of_holdsPair (holdsPair_iff_isPrefix.2 ⟨inner, wellFormed, within⟩)
    rw [List.count_append, List.count_eq_zero.2 key] at this
    simp at this

theorem segments_of_whole (no_quote : '"' ∉ pair.value) (whole : pair.Whole) :
    pair.segments = [pair.written] :=
  if_neg ((whole_iff no_quote).1 whole)

end Pair

/-! ## A run of pairs -/

theorem segmentRun_attributeRun {pairs : List Pair}
    (wellFormed : ∀ pair ∈ pairs, Pair.WellFormed pair) :
    segmentRun (attributeRun pairs) = pairs.flatMap Pair.segments := by
  have tokens : (splitOn ' ' (attributeRun pairs)).drop 1 =
      pairs.flatMap fun pair => splitOn ' ' pair.written := by
    have cut := Text.splitOn_append_flatMap ' ' [] pairs Pair.written
    rw [List.nil_append] at cut
    rw [attributeRun, cut]
    rfl
  rw [segmentRun, tokens]
  clear tokens
  induction pairs with
  | nil => rfl
  | cons pair pairs ih =>
    have others : ∀ other ∈ pairs, Pair.WellFormed other := by
      intro other member
      exact wellFormed other (List.mem_cons_of_mem pair member)
    rw [List.flatMap_cons, List.flatMap_cons,
      Pair.glue_written (wellFormed pair List.mem_cons_self), ih others]

/-- **Segmentation loses nothing**: the segments of a run of pairs, each behind a space, are the
run. -/
theorem flatMap_segmentRun {pairs : List Pair}
    (wellFormed : ∀ pair ∈ pairs, Pair.WellFormed pair) :
    (segmentRun (attributeRun pairs)).flatMap (' ' :: ·) = attributeRun pairs := by
  rw [segmentRun_attributeRun wellFormed, List.flatMap_assoc]
  simp only [Pair.flatMap_segments]
  rfl

theorem segmentRun_eq_map_written {pairs : List Pair}
    (wellFormed : ∀ pair ∈ pairs, Pair.WellFormed pair) (whole : ∀ pair ∈ pairs, Pair.Whole pair) :
    segmentRun (attributeRun pairs) = pairs.map Pair.written := by
  have segments : ∀ pair ∈ pairs, pair.segments = [pair.written] := by
    intro pair member
    obtain ⟨-, -, -, no_quote⟩ := wellFormed pair member
    exact Pair.segments_of_whole no_quote (whole pair member)
  rw [segmentRun_attributeRun wellFormed, List.flatMap_congr segments, List.map_eq_flatMap]

end Shorthand.Attribute
