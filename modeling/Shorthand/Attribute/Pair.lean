/-!
# Attribute pairs

A pair is written `key="value"`: the key is not empty and has no space, the value is not empty
and has no quote. A key may hold quotes and equals signs, so a text can start with several
pairs; `Pair.leading` lists them, the longest key first. At most one of them takes up the
whole text, which `Pair.read?` returns.
-/

namespace Shorthand.Attribute

/-- A key with its value. -/
structure Pair where
  key : List Char
  value : List Char
deriving DecidableEq, Repr

namespace Pair

/-- The pair as it is written: the key, an equals sign and the value in quotes. -/
def written (pair : Pair) : List Char := pair.key ++ '=' :: '"' :: pair.value ++ ['"']

/-- What a key and a value must satisfy to be written as a pair. -/
def WellFormed (pair : Pair) : Prop :=
  pair.key ≠ [] ∧ ' ' ∉ pair.key ∧ pair.value ≠ [] ∧ '"' ∉ pair.value

instance (pair : Pair) : Decidable pair.WellFormed := by
  unfold WellFormed
  infer_instance

/-! ## Finding the key -/

/-- The cut in front of the text, when it starts with an equals sign and a quote. -/
def cutHere : List Char → List (List Char × List Char)
  | '=' :: '"' :: after => [([], after)]
  | _ => []

/-- Puts a character in front of each cut; nothing is cut behind a space. -/
def extendCuts (c : Char) (cuts : List (List Char × List Char)) :
    List (List Char × List Char) :=
  if c = ' ' then [] else cuts.map fun cut => (c :: cut.1, cut.2)

/-- The ways to cut a text at an equals sign followed by a quote, with no space before the
cut: what stands before and what stands after, the longest first part first. -/
def openings : List Char → List (List Char × List Char)
  | [] => []
  | c :: rest => extendCuts c (openings rest) ++ cutHere (c :: rest)

/-- Reads a value and its closing quote; the value must not be empty. -/
def closeValue? (text : List Char) : Option (List Char × List Char) :=
  match text.takeWhile (· ≠ '"'), text.dropWhile (· ≠ '"') with
  | c :: value, _ :: rest => some (c :: value, rest)
  | _, _ => none

/-- Completes a cut to a pair when there is a key in front of it and a value behind it. -/
def complete? (cut : List Char × List Char) : Option (Pair × List Char) :=
  if cut.1 = [] then none
  else (closeValue? cut.2).map fun closed => (⟨cut.1, closed.1⟩, closed.2)

/-- The pairs that a text starts with, each with the text after it, the longest key first. -/
def leading (text : List Char) : List (Pair × List Char) := (openings text).filterMap complete?

/-- The pair that takes up the whole text, if there is one. -/
def read? (text : List Char) : Option Pair :=
  ((leading text).find? fun found => found.2.isEmpty).map (·.1)

/-! ## Laws -/

theorem mem_cutHere {text : List Char} {cut : List Char × List Char} :
    cut ∈ cutHere text ↔ cut.1 = [] ∧ text = '=' :: '"' :: cut.2 := by
  obtain ⟨before, after⟩ := cut
  unfold cutHere
  split
  · simp [eq_comm]
  · next other =>
    simp only [List.not_mem_nil, false_iff, not_and]
    exact fun _ h => other after h

theorem mem_extendCuts {c : Char} {cuts : List (List Char × List Char)}
    {cut : List Char × List Char} :
    cut ∈ extendCuts c cuts ↔ ∃ key, cut.1 = c :: key ∧ c ≠ ' ' ∧ (key, cut.2) ∈ cuts := by
  obtain ⟨before, after⟩ := cut
  unfold extendCuts
  split
  · next h => simp [h]
  · next h =>
    simp only [List.mem_map, Prod.mk.injEq, Prod.exists]
    constructor
    · rintro ⟨key, _, hm, rfl, rfl⟩
      exact ⟨key, rfl, h, hm⟩
    · rintro ⟨key, rfl, -, hm⟩
      exact ⟨key, after, hm, rfl, rfl⟩

/-- The cuts are exactly the ways to write the text around an equals sign and a quote with no
space in front. -/
theorem mem_openings {text : List Char} {cut : List Char × List Char} :
    cut ∈ openings text ↔ text = cut.1 ++ '=' :: '"' :: cut.2 ∧ ' ' ∉ cut.1 := by
  induction text generalizing cut with
  | nil => simp [openings]
  | cons c rest ih =>
    obtain ⟨before, after⟩ := cut
    simp only [openings, List.mem_append, mem_extendCuts, mem_cutHere, ih]
    cases before with
    | nil => simp
    | cons b key =>
      simp only [List.cons.injEq, List.cons_append, List.mem_cons, not_or]
      constructor
      · rintro (⟨_, ⟨rfl, rfl⟩, hc, h, hk⟩ | ⟨h, -⟩)
        · exact ⟨⟨rfl, h⟩, fun e => hc e.symm, hk⟩
        · simp at h
      · rintro ⟨⟨rfl, h⟩, hb, hk⟩
        exact .inl ⟨key, ⟨rfl, rfl⟩, fun e => hb e.symm, h, hk⟩

/-- Reading a value finds the text up to the first quote, if it is not empty. -/
theorem closeValue?_eq_some {text value rest : List Char} :
    closeValue? text = some (value, rest) ↔
      text = value ++ '"' :: rest ∧ value ≠ [] ∧ '"' ∉ value := by
  constructor
  · intro h
    unfold closeValue? at h
    split at h
    · next c value' q rest' hv hr =>
      obtain ⟨rfl, rfl⟩ : c :: value' = value ∧ rest' = rest := by simpa using h
      have whole := List.takeWhile_append_dropWhile (p := (· ≠ '"')) (l := text)
      have hq : q = '"' := by
        have := List.head?_dropWhile_not (· ≠ '"') text
        rw [hr] at this
        simpa using this
      refine ⟨?_, by simp, fun hm => ?_⟩
      · rw [← whole, hv, hr, hq]
      · rw [← hv] at hm
        simpa using List.all_eq_true.1 List.all_takeWhile _ hm
    · cases h
  · rintro ⟨rfl, hne, hq⟩
    have ok : ∀ c ∈ value, (decide (c ≠ '"')) = true := fun c hc => by
      simpa using fun e : c = '"' => hq (e ▸ hc)
    unfold closeValue?
    rw [List.takeWhile_append_of_pos ok, List.dropWhile_append_of_pos ok]
    cases value with
    | nil => exact absurd rfl hne
    | cons c value => simp

/-- The pairs a text starts with are exactly the well-formed pairs it can be written with. -/
theorem mem_leading {text : List Char} {pair : Pair} {rest : List Char} :
    (pair, rest) ∈ leading text ↔ text = pair.written ++ rest ∧ pair.WellFormed := by
  obtain ⟨key, value⟩ := pair
  simp only [leading, List.mem_filterMap, complete?, Prod.exists]
  constructor
  · rintro ⟨before, after, hcut, h⟩
    split at h
    · cases h
    · next hb =>
      obtain ⟨closed, hclosed, heq⟩ := Option.map_eq_some_iff.1 h
      obtain ⟨v, r⟩ := closed
      obtain ⟨⟨rfl, rfl⟩, rfl⟩ : (before = key ∧ v = value) ∧ r = rest := by simpa using heq
      obtain ⟨htext, hspace⟩ := mem_openings.1 hcut
      obtain ⟨rfl, hv, hq⟩ := closeValue?_eq_some.1 hclosed
      exact ⟨by simpa [written] using htext, hb, hspace, hv, hq⟩
  · rintro ⟨rfl, hk, hspace, hv, hq⟩
    refine ⟨key, value ++ '"' :: rest, mem_openings.2 ⟨by simp [written], hspace⟩, ?_⟩
    simp only at hk
    simp [hk, closeValue?_eq_some.2 ⟨rfl, hv, hq⟩]

/-- What is left behind a leading pair is shorter than the text. -/
theorem length_lt_of_mem_leading {text : List Char} {found : Pair × List Char}
    (h : found ∈ leading text) : found.2.length < text.length := by
  obtain ⟨pair, rest⟩ := found
  rw [(mem_leading.1 h).1]
  simp [written]
  omega

end Pair

end Shorthand.Attribute
