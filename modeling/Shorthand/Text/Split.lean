/-!
# Splitting at a separator

`splitOn sep text` cuts a text at every occurrence of one character. The pieces hold no
separator (`not_mem_of_mem_splitOn`), there is always at least one (`splitOn_ne_nil`), and
joining them again gives the text back (`intercalate_splitOn`). It is the library's
`List.splitOn` (`splitOn_eq`), whose laws say how a text is cut that is put together from parts.
-/

namespace Shorthand.Text

/-! ## Cutting -/

/-- Puts a character in front of the first piece. -/
def consFirst (c : Char) : List (List Char) → List (List Char)
  | [] => [[c]]
  | piece :: pieces => (c :: piece) :: pieces

/-- The pieces of a text between the occurrences of the separator. -/
def splitOn (sep : Char) : List Char → List (List Char)
  | [] => [[]]
  | c :: rest => if c = sep then [] :: splitOn sep rest else consFirst c (splitOn sep rest)

/-! ## Laws -/

theorem consFirst_ne_nil (c : Char) (pieces : List (List Char)) : consFirst c pieces ≠ [] := by
  cases pieces <;> simp [consFirst]

theorem splitOn_ne_nil (sep : Char) (text : List Char) : splitOn sep text ≠ [] := by
  cases text with
  | nil => simp [splitOn]
  | cons c rest =>
    rw [splitOn]
    split
    · simp
    · exact consFirst_ne_nil c _

theorem intercalate_consFirst (sep : List Char) (c : Char) {pieces : List (List Char)}
    (h : pieces ≠ []) : sep.intercalate (consFirst c pieces) = c :: sep.intercalate pieces := by
  match pieces, h with
  | [piece], _ => simp [consFirst]
  | piece :: next :: pieces, _ => simp [consFirst, List.intercalate_cons_cons]

/-- Joining the pieces gives the text back: cutting loses nothing. -/
theorem intercalate_splitOn (sep : Char) (text : List Char) :
    [sep].intercalate (splitOn sep text) = text := by
  induction text with
  | nil => simp [splitOn]
  | cons c rest ih =>
    rw [splitOn]
    split
    · next h =>
      rw [List.intercalate_cons_of_ne_nil (splitOn_ne_nil sep rest), ih, h]
      rfl
    · rw [intercalate_consFirst _ _ (splitOn_ne_nil sep rest), ih]

theorem mem_consFirst {c : Char} {pieces : List (List Char)} {piece : List Char}
    (h : piece ∈ consFirst c pieces) :
    piece = [c] ∨ piece ∈ pieces ∨ ∃ first ∈ pieces, piece = c :: first := by
  cases pieces with
  | nil => simp [consFirst] at h; exact .inl h
  | cons first rest =>
    simp only [consFirst, List.mem_cons] at h
    rcases h with rfl | h
    · exact .inr (.inr ⟨first, by simp, rfl⟩)
    · exact .inr (.inl (by simp [h]))

/-- No piece holds the separator. -/
theorem not_mem_of_mem_splitOn {sep : Char} {text piece : List Char}
    (h : piece ∈ splitOn sep text) : sep ∉ piece := by
  induction text generalizing piece with
  | nil => simp_all [splitOn]
  | cons c rest ih =>
    rw [splitOn] at h
    split at h
    · rcases List.mem_cons.1 h with rfl | h
      · simp
      · exact ih h
    · next hc =>
      rcases mem_consFirst h with rfl | h | ⟨first, hf, rfl⟩
      · simpa using fun e => hc e.symm
      · exact ih h
      · simpa using ⟨fun e => hc e.symm, ih hf⟩

/-! ## Cutting what is put together -/

theorem consFirst_eq_modifyHead (c : Char) {pieces : List (List Char)} (h : pieces ≠ []) :
    consFirst c pieces = pieces.modifyHead (List.cons c) := by
  cases pieces with
  | nil => exact absurd rfl h
  | cons piece pieces => rfl

theorem splitOn_eq (sep : Char) (text : List Char) : splitOn sep text = text.splitOn sep := by
  induction text with
  | nil => rfl
  | cons c rest ih =>
    rw [splitOn, List.splitOn_cons_eq_if_modifyHead, ih]
    by_cases h : c = sep
    · simp [h]
    · simp [h, consFirst_eq_modifyHead c (List.splitOn_ne_nil sep rest)]

theorem splitOn_of_not_mem {sep : Char} {text : List Char} (h : sep ∉ text) :
    splitOn sep text = [text] := by
  rw [splitOn_eq, List.splitOn_eq_singleton h]

theorem splitOn_append_cons (sep : Char) (first rest : List Char) :
    splitOn sep (first ++ sep :: rest) = splitOn sep first ++ splitOn sep rest := by
  simp only [splitOn_eq, List.splitOn_append_cons_self]

/-- A text is cut at its first separator in one way only. -/
theorem append_cons_inj {sep : Char} {first first' rest rest' : List Char} (h : sep ∉ first)
    (h' : sep ∉ first') (same : first ++ sep :: rest = first' ++ sep :: rest') :
    first = first' ∧ rest = rest' := by
  have pieces := congrArg (List.splitOn sep) same
  rw [List.splitOn_append_cons_self_of_not_mem h, List.splitOn_append_cons_self_of_not_mem h']
    at pieces
  obtain rfl := (List.cons.inj pieces).1
  exact ⟨rfl, (List.cons.inj (List.append_cancel_left same)).2⟩

/-- Parts that each stand behind a separator are cut one by one. -/
theorem splitOn_append_flatMap {α : Type} (sep : Char) (first : List Char) (items : List α)
    (part : α → List Char) :
    splitOn sep (first ++ items.flatMap fun item => sep :: part item) =
      splitOn sep first ++ items.flatMap fun item => splitOn sep (part item) := by
  induction items generalizing first with
  | nil => simp
  | cons item items ih =>
    rw [List.flatMap_cons, List.flatMap_cons, List.cons_append, splitOn_append_cons, ih]

end Shorthand.Text
