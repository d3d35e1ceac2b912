/-!
# Texts that can be told apart

Values that are written one behind the other can be read again when the text of each of them says
where it ends. `ToldApart` is this property for two values, whatever follows them; since a form may
leave something out, the values need only agree in what a view shows of them. Lists inherit it from
their items, if what closes a list cannot be mistaken for a further item (`toldApart_flatMap`).
-/

namespace Shorthand.Text

variable {α β : Type} {write : α → List Char} {view : α → β}

/-- With whatever follows them, two values have the same text only if they look the same, and then
the same follows. -/
def ToldApart (write : α → List Char) (view : α → β) (first second : α) : Prop :=
  ∀ rest rest', write first ++ rest = write second ++ rest' →
    view first = view second ∧ rest = rest'

theorem ToldApart.view_eq {first second : α} (h : ToldApart write view first second)
    (same : write first = write second) : view first = view second :=
  (h [] [] (by rw [same])).1

/-- What a reader finds at the front of a text is told apart. -/
theorem toldApart_of_read {read : List Char → Option (β × List Char)} {first second : α}
    (reads : ∀ value rest, read (write value ++ rest) = some (view value, rest)) :
    ToldApart write view first second := by
  intro rest rest' same
  have found := reads first rest
  rw [same, reads second rest'] at found
  obtain ⟨views, rests⟩ := Prod.mk.inj (Option.some.inj found)
  exact ⟨views.symm, rests.symm⟩

/-- Items that are told apart are told apart one behind the other, up to a closing text that starts
no item. -/
theorem toldApart_flatMap {close : List Char} {first second : List α}
    (items : ∀ a ∈ first, ∀ b ∈ second, ToldApart write view a b)
    (ends : ∀ a ∈ first ++ second, ∀ rest rest', close ++ rest ≠ write a ++ rest') :
    ToldApart (fun values => values.flatMap write ++ close) (List.map view) first second := by
  intro rest rest' same
  induction first generalizing second with
  | nil =>
    cases second with
    | nil => exact ⟨rfl, List.append_cancel_left same⟩
    | cons b second =>
      simp only [List.flatMap_nil, List.nil_append, List.flatMap_cons, List.append_assoc] at same
      exact absurd same (ends b (by simp) rest _)
  | cons a first ih =>
    cases second with
    | nil =>
      simp only [List.flatMap_nil, List.nil_append, List.flatMap_cons, List.append_assoc] at same
      exact absurd same.symm (ends a (by simp) rest' _)
    | cons b second =>
      simp only [List.flatMap_cons, List.append_assoc] at same
      obtain ⟨head, behind⟩ := items a (by simp) b (by simp) _ _ same
      have items' : ∀ a ∈ first, ∀ b ∈ second, ToldApart write view a b := fun a ha b hb =>
        items a (List.mem_cons_of_mem _ ha) b (List.mem_cons_of_mem _ hb)
      have ends' : ∀ a ∈ first ++ second, ∀ rest rest', close ++ rest ≠ write a ++ rest' := by
        intro a member
        rcases List.mem_append.1 member with member | member
        · exact ends a (by simp [member])
        · exact ends a (by simp [member])
      obtain ⟨tail, rests⟩ := ih items' ends' (by simpa using behind)
      exact ⟨by simp [head, tail], rests⟩

/-- A run of characters of one class is cut off in one way only in front of a character of
another class. -/
theorem append_inj_of_stop {p : Char → Bool} {first first' rest rest' : List Char}
    (run : ∀ c ∈ first, p c = true) (run' : ∀ c ∈ first', p c = true)
    (stop : ∀ c ∈ rest.head?, p c = false) (stop' : ∀ c ∈ rest'.head?, p c = false)
    (same : first ++ rest = first' ++ rest') : first = first' ∧ rest = rest' := by
  induction first generalizing first' with
  | nil =>
    cases first' with
    | nil => exact ⟨rfl, same⟩
    | cons c first' =>
      have stops := stop c (by rw [List.nil_append] at same; rw [same]; rfl)
      rw [run' c List.mem_cons_self] at stops
      cases stops
  | cons c first ih =>
    cases first' with
    | nil =>
      have stops := stop' c (by rw [List.nil_append] at same; rw [← same]; rfl)
      rw [run c List.mem_cons_self] at stops
      cases stops
    | cons c' first' =>
      obtain ⟨rfl, behind⟩ := List.cons.inj same
      obtain ⟨rfl, rests⟩ := ih (fun d member => run d (List.mem_cons_of_mem c member))
        (fun d member => run' d (List.mem_cons_of_mem c member)) behind
      exact ⟨rfl, rests⟩

end Shorthand.Text
