import Shorthand.Attribute.Segment
import Shorthand.Proofs.Attribute.Pair

/-!
# Splitting a text into key and value

A text that is one pair is split into its key and its value, and no other text is split at all
(`readPair?_exact`). The order in which keys are tried does not matter: a search that starts with
the shortest key, and goes on wherever the text behind it does not close exactly at its end, comes
to the same pair (`readLazily?_eq`). Such a search cannot miss the pair, since it gives up only at a
space or at the end of the text (`isSome_readLazily?`), and cannot take another one, since a text is
the written form of one pair at most.
-/

namespace Shorthand.Attribute

namespace Pair

/-! ## The shortest key first -/

/-- Completes a key to a pair when the whole text behind it is an equals sign and a value in
quotes. -/
def closeAll? (key : List Char) : List Char → Option Pair
  | '=' :: '"' :: after =>
    match closeValue? after with
    | some (value, []) => if key = [] then none else some ⟨key, value⟩
    | _ => none
  | _ => none

/-- Reads a pair that takes up the whole text, given what has been read of its key. The key grows by
one character wherever the text behind it does not close. -/
def readLazily? (key : List Char) : List Char → Option Pair
  | [] => none
  | c :: rest =>
    (closeAll? key (c :: rest)).or (if c = ' ' then none else readLazily? (key ++ [c]) rest)

theorem written_eq (pair : Pair) :
    pair.written = pair.key ++ '=' :: '"' :: (pair.value ++ ['"']) := by
  simp [written]

theorem closeAll?_eq_some {key text : List Char} {pair : Pair} :
    closeAll? key text = some pair ↔
      text = '=' :: '"' :: (pair.value ++ ['"']) ∧ pair.key = key ∧ key ≠ [] ∧ pair.value ≠ [] ∧
        '"' ∉ pair.value := by
  constructor
  · intro h
    unfold closeAll? at h
    split at h
    · next after =>
      split at h
      · next value closed =>
        obtain ⟨rfl, some_value, no_quote⟩ := closeValue?_eq_some.1 closed
        by_cases some_key : key = []
        · simp [some_key] at h
        · rw [if_neg some_key] at h
          cases h
          exact ⟨rfl, rfl, some_key, some_value, no_quote⟩
      · cases h
    · cases h
  · rintro ⟨rfl, rfl, some_key, some_value, no_quote⟩
    have closed : closeValue? (pair.value ++ ['"']) = some (pair.value, []) :=
      closeValue?_eq_some.2 ⟨rfl, some_value, no_quote⟩
    simp [closeAll?, closed, some_key]

/-- What the search finds is written in the text. -/
theorem written_of_readLazily? {key text : List Char} {pair : Pair} (no_space : ' ' ∉ key)
    (h : readLazily? key text = some pair) : key ++ text = pair.written ∧ pair.WellFormed := by
  induction text generalizing key with
  | nil => cases h
  | cons c rest ih =>
    rw [readLazily?, Option.or_eq_some_iff] at h
    rcases h with closes | ⟨-, longer⟩
    · obtain ⟨behind, rfl, some_key, some_value, no_quote⟩ := closeAll?_eq_some.1 closes
      exact ⟨by rw [behind, written_eq], some_key, no_space, some_value, no_quote⟩
    · by_cases space : c = ' '
      · rw [if_pos space] at longer
        cases longer
      · rw [if_neg space] at longer
        have no_space' : ' ' ∉ key ++ [c] := by simp [no_space, Ne.symm space]
        obtain ⟨written, wellFormed⟩ := ih no_space' longer
        exact ⟨by rw [← written, List.append_assoc, List.singleton_append], wellFormed⟩

/-- The search finds a pair wherever one is left to be read; `more` is what its key still lacks. -/
theorem isSome_readLazily? {key more value : List Char} (some_key : key ++ more ≠ [])
    (no_space : ' ' ∉ more) (some_value : value ≠ []) (no_quote : '"' ∉ value) :
    (readLazily? key (more ++ '=' :: '"' :: (value ++ ['"']))).isSome := by
  induction more generalizing key with
  | nil =>
    have closes : closeAll? key ('=' :: '"' :: (value ++ ['"'])) = some ⟨key, value⟩ :=
      closeAll?_eq_some.2 ⟨rfl, rfl, by simpa using some_key, some_value, no_quote⟩
    rw [List.nil_append, readLazily?, closes]
    rfl
  | cons c more ih =>
    rw [List.mem_cons, not_or] at no_space
    have later : (readLazily? (key ++ [c]) (more ++ '=' :: '"' :: (value ++ ['"']))).isSome :=
      ih (by simp) no_space.2
    rw [List.cons_append, readLazily?, if_neg (Ne.symm no_space.1), Option.isSome_or, later,
      Bool.or_true]

/-- **Trying the shortest key first finds the same pair.** -/
theorem readLazily?_eq (text : List Char) : readLazily? [] text = read? text := by
  refine Option.ext fun pair => ?_
  rw [read?_eq_some]
  constructor
  · intro found
    exact written_of_readLazily? List.not_mem_nil found
  · rintro ⟨rfl, wellFormed⟩
    obtain ⟨some_key, no_space, some_value, no_quote⟩ := id wellFormed
    have finds : (readLazily? [] (pair.key ++ '=' :: '"' :: (pair.value ++ ['"']))).isSome :=
      isSome_readLazily? some_key no_space some_value no_quote
    rw [← written_eq] at finds
    obtain ⟨other, found⟩ := Option.isSome_iff_exists.1 finds
    obtain ⟨same, wellFormed'⟩ := written_of_readLazily? List.not_mem_nil found
    rwa [written_injective wellFormed' wellFormed same.symm] at found

end Pair

/-! ## Texts -/

/-- Whether a text is a key, an equals sign and a value in quotes. The key may hold quotes and
equals signs, and the value spaces. -/
structure IsPair (raw key value : String) : Prop where
  written : raw = key ++ "=\"" ++ value ++ "\""
  key_ne : key ≠ ""
  no_space : ' ' ∉ key.toList
  value_ne : value ≠ ""
  no_quote : '"' ∉ value.toList

theorem isPair_iff {raw key value : String} :
    IsPair raw key value ↔ Pair.read? raw.toList = some ⟨key.toList, value.toList⟩ := by
  have texts : raw = key ++ "=\"" ++ value ++ "\"" ↔
      raw.toList = Pair.written ⟨key.toList, value.toList⟩ := by
    rw [← String.toList_inj]
    simp [Pair.written]
  rw [Pair.read?_eq_some, ← texts]
  constructor
  · rintro ⟨written, key_ne, no_space, value_ne, no_quote⟩
    exact ⟨written, by simpa using key_ne, no_space, by simpa using value_ne, no_quote⟩
  · rintro ⟨written, key_ne, no_space, value_ne, no_quote⟩
    exact ⟨written, by simpa using key_ne, no_space, by simpa using value_ne, no_quote⟩

theorem readPair?_eq_some {raw key value : String} :
    readPair? raw = some (key, value) ↔ IsPair raw key value := by
  rw [isPair_iff, readPair?, Option.map_eq_some_iff]
  constructor
  · rintro ⟨pair, found, same⟩
    cases same
    simpa using found
  · intro found
    exact ⟨_, found, by simp⟩

/-- **A pair is split in one way, and nothing else is.** A text is split into a key and a value
exactly when it is these two written as a pair; there is at most one such way to write it, and a
search that starts with the shortest key finds it. -/
theorem readPair?_exact (raw : String) :
    (∀ key value, readPair? raw = some (key, value) ↔ IsPair raw key value) ∧
    (∀ key value key' value', IsPair raw key value → IsPair raw key' value' →
      key' = key ∧ value' = value) ∧
    (Pair.readLazily? [] raw.toList).map
      (fun pair => (String.ofList pair.key, String.ofList pair.value)) = readPair? raw := by
  refine ⟨fun key value => readPair?_eq_some, ?_, ?_⟩
  · intro key value key' value' pair pair'
    have same := (readPair?_eq_some.2 pair').symm.trans (readPair?_eq_some.2 pair)
    simpa using same
  · rw [Pair.readLazily?_eq, readPair?]

/-- Two equals signs with a quote come before the one that ends the key; a whole pair stands in
front, and the value has a space at either end. -/
theorem readPair?_exact_behind_pair :
    let raw := "a=\"b\"c=\"=\" d \""
    IsPair raw "a=\"b\"c=\"" " d " ∧ readPair? raw = some ("a=\"b\"c=\"", " d ") ∧
      (∀ key value, IsPair raw key value → key = "a=\"b\"c=\"" ∧ value = " d ") ∧
      Pair.readLazily? [] raw.toList = some ⟨"a=\"b\"c=\"".toList, " d ".toList⟩ := by
  intro raw
  obtain ⟨reads, unique, lazily⟩ := readPair?_exact raw
  have pair : IsPair raw "a=\"b\"c=\"" " d " :=
    ⟨by decide, by decide, by decide, by decide, by decide⟩
  exact ⟨pair, (reads _ _).2 pair, fun key value => unique _ _ key value pair, by decide⟩

end Shorthand.Attribute
