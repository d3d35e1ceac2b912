import Shorthand.Attribute.Pair
import Shorthand.Text.Split

/-!
# Pairs at the start of a text

A text can start with several pairs, since a key may hold an equals sign and a quote. The pairs
are listed by their keys, longest first; a longer key reaches past the whole of every pair with a
shorter one (`length_written_lt`), so they are listed by their own lengths as well
(`leading_sorted`), and no two of them are equally long. So a text is the written form of one pair
at most, and `read?` finds it (`read?_eq_some`).
-/

namespace Shorthand.Attribute.Pair

theorem length_written (pair : Pair) :
    pair.written.length = pair.key.length + pair.value.length + 3 := by
  simp only [written, List.length_append, List.length_cons, List.length_nil]
  omega

theorem openings_sorted (text : List Char) :
    (openings text).Pairwise fun longer shorter => shorter.1.length < longer.1.length := by
  induction text with
  | nil => exact .nil
  | cons c rest ih =>
    rw [openings, List.pairwise_append]
    refine ⟨?_, ?_, ?_⟩
    · unfold extendCuts
      split
      · exact .nil
      · refine List.pairwise_map.2 (ih.imp ?_)
        intro longer shorter h
        exact Nat.succ_lt_succ h
    · unfold cutHere
      split
      · exact List.pairwise_singleton _ _
      · exact .nil
    · intro longer extended shorter here
      obtain ⟨key, cons, -⟩ := mem_extendCuts.1 extended
      rw [(mem_cutHere.1 here).1, cons]
      exact Nat.succ_pos _

theorem key_of_complete? {cut : List Char × List Char} {found : Pair × List Char}
    (h : complete? cut = some found) : found.1.key = cut.1 := by
  unfold complete? at h
  split at h
  · cases h
  · obtain ⟨closed, -, rfl⟩ := Option.map_eq_some_iff.1 h
    rfl

/-- If a text starts with two pairs, the longer key goes on with the equals sign and the quote of
the pair with the shorter one. -/
theorem key_of_longer {long short : Pair} {behindLong behindShort : List Char}
    (same : long.written ++ behindLong = short.written ++ behindShort)
    (keys : short.key.length < long.key.length) :
    ∃ more, long.key = short.key ++ '=' :: '"' :: more ∧
      short.value ++ '"' :: behindShort =
        more ++ '=' :: '"' :: (long.value ++ '"' :: behindLong) := by
  simp only [written, List.append_assoc, List.cons_append, List.nil_append] at same
  obtain ⟨more, key, rest⟩ : ∃ more, long.key = short.key ++ more ∧
      '=' :: '"' :: (short.value ++ '"' :: behindShort) =
        more ++ '=' :: '"' :: (long.value ++ '"' :: behindLong) := by
    rcases List.append_eq_append_iff.1 same with ⟨more, key, rest⟩ | ⟨more, key, rest⟩
    · have := congrArg List.length key
      rw [List.length_append] at this
      omega
    · exact ⟨more, key, rest⟩
  rcases more with _ | ⟨first, _ | ⟨second, more⟩⟩
  · rw [List.append_nil] at key
    rw [key] at keys
    omega
  · simp at rest
  · simp only [List.cons_append, List.cons.injEq] at rest
    obtain ⟨rfl, rfl, rest⟩ := rest
    exact ⟨more, key, rest⟩

/-- If a text starts with two pairs, the one with the longer key is the longer one: its key goes
on at least to the quote that ends the other. -/
theorem length_written_lt {long short : Pair} {behindLong behindShort : List Char}
    (same : long.written ++ behindLong = short.written ++ behindShort)
    (long_ok : long.WellFormed) (short_ok : short.WellFormed)
    (keys : short.key.length < long.key.length) :
    short.written.length < long.written.length := by
  obtain ⟨-, -, value, -⟩ := long_ok
  obtain ⟨-, -, -, no_quote⟩ := short_ok
  have some_value : 0 < long.value.length := List.length_pos_iff.2 value
  obtain ⟨more, key, rest⟩ := key_of_longer same keys
  have rest' : short.value ++ '"' :: behindShort =
      (more ++ ['=', '"']) ++ (long.value ++ '"' :: behindLong) := by
    simpa using rest
  -- the value of the shorter pair ends before the quote that opens the longer one's
  have inside : short.value.length ≤ more.length + 2 := by
    rcases List.append_eq_append_iff.1 rest' with ⟨_, split, -⟩ | ⟨_, split, -⟩
    · have := congrArg List.length split
      simp only [List.length_append, List.length_cons, List.length_nil] at this
      omega
    · exact absurd (by simp [split]) no_quote
  rw [length_written, length_written, key]
  simp only [List.length_append, List.length_cons]
  omega

theorem leading_sorted (text : List Char) :
    (leading text).Pairwise fun longer shorter =>
      shorter.1.written.length < longer.1.written.length := by
  refine List.pairwise_filterMap.2 ((openings_sorted text).imp_of_mem ?_)
  intro cut cut' member member' lengths found complete found' complete'
  have mem : found ∈ leading text := List.mem_filterMap.2 ⟨cut, member, complete⟩
  have mem' : found' ∈ leading text := List.mem_filterMap.2 ⟨cut', member', complete'⟩
  obtain ⟨written, ok⟩ := mem_leading.1 mem
  obtain ⟨written', ok'⟩ := mem_leading.1 mem'
  refine length_written_lt (written.symm.trans written') ok ok' ?_
  rw [key_of_complete? complete, key_of_complete? complete']
  exact lengths

/-! ## Pairs that can be told apart -/

/-- A pair without quotes in its key and without a space at the start of its value. -/
structure Plain (pair : Pair) : Prop where
  wellFormed : pair.WellFormed
  key : '"' ∉ pair.key
  value : pair.value.head? ≠ some ' '

/-- A text starts with one pair for each length of a key. -/
theorem eq_of_key_length_eq {pair other : Pair} {behind behindOther : List Char}
    (same : pair.written ++ behind = other.written ++ behindOther) (ok : pair.WellFormed)
    (other_ok : other.WellFormed) (keys : pair.key.length = other.key.length) :
    pair = other ∧ behind = behindOther := by
  obtain ⟨-, -, -, no_quote⟩ := ok
  obtain ⟨-, -, -, no_quote'⟩ := other_ok
  simp only [written, List.append_assoc, List.cons_append, List.nil_append] at same
  obtain ⟨key, rest⟩ := List.append_inj same keys
  simp only [List.cons.injEq, true_and] at rest
  obtain ⟨value, behinds⟩ := Text.append_cons_inj no_quote no_quote' rest
  obtain ⟨pairKey, pairValue⟩ := pair
  obtain ⟨otherKey, otherValue⟩ := other
  obtain rfl : pairKey = otherKey := key
  obtain rfl : pairValue = otherValue := value
  exact ⟨rfl, behinds⟩

theorem written_injective {pair other : Pair} (ok : pair.WellFormed) (other_ok : other.WellFormed)
    (same : pair.written = other.written) : pair = other := by
  have lengths : pair.written.length = other.written.length := by rw [same]
  have same' : pair.written ++ [] = other.written ++ [] := by rw [same]
  rcases Nat.lt_trichotomy pair.key.length other.key.length with shorter | equal | longer
  · have := length_written_lt same'.symm other_ok ok shorter
    omega
  · exact (eq_of_key_length_eq same' ok other_ok equal).1
  · have := length_written_lt same' ok other_ok longer
    omega

theorem eq_written_of_find? {text : List Char} {found : Pair × List Char}
    (h : (leading text).find? (fun found => found.2.isEmpty) = some found) :
    text = found.1.written ∧ found.1.WellFormed := by
  have behind : found.2 = [] := by simpa using List.find?_some h
  obtain ⟨written, wellFormed⟩ := mem_leading.1 (List.mem_of_find?_eq_some h)
  rw [behind, List.append_nil] at written
  exact ⟨written, wellFormed⟩

/-- **A pair is read from the text it is written as**, and from no other. -/
theorem read?_eq_some {text : List Char} {pair : Pair} :
    read? text = some pair ↔ text = pair.written ∧ pair.WellFormed := by
  constructor
  · intro h
    obtain ⟨found, search, rfl⟩ := Option.map_eq_some_iff.1 h
    exact eq_written_of_find? search
  · rintro ⟨rfl, wellFormed⟩
    have member : (pair, []) ∈ leading pair.written :=
      mem_leading.2 ⟨(List.append_nil _).symm, wellFormed⟩
    rw [read?, Option.map_eq_some_iff]
    cases search : (leading pair.written).find? fun found => found.2.isEmpty with
    | none => exact absurd rfl (List.find?_eq_none.1 search _ member)
    | some found =>
      obtain ⟨written, other_ok⟩ := eq_written_of_find? search
      exact ⟨found, rfl, written_injective other_ok wellFormed written.symm⟩

/-- **What a longer key swallows**: behind a plain pair, where only a space may follow, another
reading has a key that goes on to an equals sign at the end of the value, takes the closing quote
for an opening one, and ends its own value at the next quote. -/
theorem eq_or_swallowed {pair other : Pair} {behind behindOther : List Char} (plain : pair.Plain)
    (other_ok : other.WellFormed) (start : ∀ c, behind.head? = some c → c = ' ')
    (same : other.written ++ behindOther = pair.written ++ behind) :
    other = pair ∧ behindOther = behind ∨
      pair.value.getLast? = some '=' ∧ behind = other.value ++ '"' :: behindOther := by
  obtain ⟨-, no_space, -, no_quote_other⟩ := id other_ok
  obtain ⟨-, -, -, no_quote⟩ := id plain.wellFormed
  rcases Nat.lt_trichotomy other.key.length pair.key.length with shorter | equal | longer
  · obtain ⟨more, key, -⟩ := key_of_longer same.symm shorter
    exact absurd (by simp [key]) plain.key
  · exact .inl (eq_of_key_length_eq same other_ok plain.wellFormed equal)
  · obtain ⟨more, key, rest⟩ := key_of_longer same longer
    have no_space : ' ' ∉ more := by
      intro member
      exact no_space (by simp [key, member])
    by_cases quote : '"' ∈ more
    · -- then the key goes on behind the pair, where there is a space
      obtain ⟨first, last, rfl, no_quote_first⟩ := List.eq_append_cons_of_mem quote
      rw [List.append_assoc, List.cons_append] at rest
      obtain ⟨-, rfl⟩ := Text.append_cons_inj no_quote no_quote_first rest
      cases last with
      | nil => cases start '=' rfl
      | cons c last =>
        obtain rfl : c = ' ' := start c rfl
        simp at no_space
    · have no_quote_more : '"' ∉ more ++ ['='] := by simpa using quote
      have rest' : pair.value ++ '"' :: behind =
          (more ++ ['=']) ++ '"' :: (other.value ++ '"' :: behindOther) := by
        simpa using rest
      obtain ⟨value, rfl⟩ := Text.append_cons_inj no_quote no_quote_more rest'
      exact .inr ⟨by rw [value, List.getLast?_concat], rfl⟩

end Shorthand.Attribute.Pair
