import Shorthand.Proofs.Forest.LastChild

/-!
# How far down an element goes

The way down through last children ends at an element without children, and its length alone
decides what becomes of an element that is to be appended: as long as it reaches, the child is put
below the element at its depth, behind everything that was there; when it does not, nothing
happens at all (`appendBelow_exact`).
-/

namespace Shorthand

open Element (outlineAt outlineAt_cons outlineAt_nil)

namespace Element

/-! ## The chain of last children -/

mutual

/-- An element, its last child, the last child of that one and so on, down to an element without
children. -/
def lastChain : Element → List Element
  | ⟨name, attributes, children, text⟩ =>
    ⟨name, attributes, children, text⟩ :: chainOfLast children

/-- The chain of the last of some elements; there is none if there is no element. -/
def chainOfLast : List Element → List Element
  | [] => []
  | [last] => lastChain last
  | _ :: next :: rest => chainOfLast (next :: rest)

end

theorem chainOfLast_concat (others : List Element) (last : Element) :
    chainOfLast (others ++ [last]) = lastChain last := by
  induction others with
  | nil => rfl
  | cons element others ih =>
    cases others with
    | nil => rfl
    | cons next others => exact ih

variable {parent last : Element}

theorem getElem?_lastChain_zero (parent : Element) : parent.lastChain[0]? = some parent := by
  cases parent
  rfl

theorem lastChain_of_getLast? (h : parent.children.getLast? = some last) :
    parent.lastChain = parent :: last.lastChain := by
  obtain ⟨name, attributes, children, text⟩ := parent
  obtain ⟨others, rfl⟩ := List.getLast?_eq_some_iff.1 h
  rw [lastChain, chainOfLast_concat]

theorem lastChain_replaceLast (parent last : Element) :
    (parent.replaceLast last).lastChain = parent.replaceLast last :: last.lastChain :=
  lastChain_of_getLast? List.getLast?_concat

theorem lastChain_pushChild (parent child : Element) :
    (parent.pushChild child).lastChain = parent.pushChild child :: child.lastChain :=
  lastChain_of_getLast? List.getLast?_concat

/-- The chain ends at an element without children, and so does the walk. -/
theorem exists_bottom (parent : Element) :
    ∃ c bottom, parent.lastChain.length = c + 1 ∧ parent.lastChain[c]? = some bottom ∧
      bottom.children = [] ∧
      ∀ level, (outlineAt level [parent]).getLast? = some (bottom.entryAt (level + c)) := by
  induction parent using Element.induction with
  | step name attributes children text ih =>
    rcases List.eq_nil_or_concat' children with rfl | ⟨others, last, rfl⟩
    · exact ⟨0, _, rfl, rfl, rfl, fun level => rfl⟩
    · obtain ⟨c, bottom, length, found, childless, walk⟩ := ih last (by simp)
      have lowest : (others ++ [last]).getLast? = some last := List.getLast?_concat
      have chain : lastChain ⟨name, attributes, others ++ [last], text⟩ = _ :: last.lastChain :=
        lastChain_of_getLast? lowest
      refine ⟨c + 1, bottom, ?_, ?_, childless, ?_⟩
      · rw [chain, List.length_cons, length]
      · rw [chain, List.getElem?_cons_succ, found]
      · intro level
        rw [outlineAt_of_getLast? lowest, List.getLast?_append_of_ne_nil _
          (outlineAt_ne_nil (List.cons_ne_nil last []) _), walk, Nat.add_right_comm, Nat.add_assoc]

/-! ## Appending below -/

/-- A child that has been appended hangs below the element of the chain at its depth, behind the
children that were there, and the chain goes on with it. -/
theorem lastChain_of_appendBelow {child after : Element} {depth : Nat}
    (h : parent.appendBelow child depth = .ok after) :
    ∃ target, parent.lastChain[depth]? = some target ∧
      after.lastChain.drop depth = target.pushChild child :: child.lastChain := by
  induction depth generalizing parent after with
  | zero =>
    cases h
    exact ⟨parent, getElem?_lastChain_zero parent, lastChain_pushChild parent child⟩
  | succ depth ih =>
    cases found : parent.children.getLast? with
    | none =>
      rw [appendBelow_of_childless (List.getLast?_eq_none_iff.1 found)] at h
      cases h
    | some last =>
      rw [appendBelow_of_getLast? found] at h
      cases below : last.appendBelow child depth with
      | error cause =>
        rw [below] at h
        cases h
      | ok last' =>
        rw [below] at h
        cases h
        obtain ⟨target, reached, hangs⟩ := ih below
        refine ⟨target, ?_, ?_⟩
        · rw [lastChain_of_getLast? found, List.getElem?_cons_succ, reached]
        · rw [lastChain_replaceLast, List.drop_succ_cons, hangs]

/-- **Appending is exact and atomic.** Let the chain of last children go down `c` levels. Up to
there the child becomes the last child of the element at its depth, and the walk of the whole is
the old one followed by that of the child, moved down below its new parent. Any deeper the append
fails, naming the element at the end of the chain and the levels that are missing, and what was
there is unchanged. -/
theorem appendBelow_exact (parent child : Element) (depth : Nat) :
    ∃ c bottom, parent.lastChain.length = c + 1 ∧ parent.lastChain[c]? = some bottom ∧
      bottom.children = [] ∧
      (depth ≤ c ∧
          (∃ target after, parent.lastChain[depth]? = some target ∧
            parent.appendBelow child depth = .ok after ∧
            parent.appendInPlace child depth = (after, .ok ()) ∧
            after.lastChain.drop depth = target.pushChild child :: child.lastChain ∧
            (forestRows [after]).map Row.entry = (forestRows [parent]).map Row.entry ++
              ((forestRows [child]).map Row.entry).map (Entry.lower (depth + 1))) ∨
        c < depth ∧
          parent.appendBelow child depth = .error (.noOpenChild bottom.name (depth - c)) ∧
          parent.appendInPlace child depth =
            (parent, .error (.noOpenChild bottom.name (depth - c)))) := by
  obtain ⟨c, bottom, length, found, childless, walk⟩ := exists_bottom parent
  refine ⟨c, bottom, length, found, childless, ?_⟩
  have last := walk 0
  rw [Nat.zero_add] at last
  rcases appendBelow_cases child depth 0 last with ⟨fits, after, appended, rows⟩ | ⟨deep, failed⟩
  · obtain ⟨target, reached, hangs⟩ := lastChain_of_appendBelow appended
    rw [Nat.zero_add] at fits
    refine .inl ⟨fits, target, after, reached, appended, ?_, hangs, ?_⟩
    · rw [appendInPlace_eq, appended]
    · show outlineAt 0 [after] = outlineAt 0 [parent] ++
        (outlineAt 0 [child]).map (Entry.lower (depth + 1))
      rw [← outlineAt_eq_map_lower, rows, Nat.zero_add]
  · rw [Nat.zero_add] at deep failed
    refine .inr ⟨deep, failed, ?_⟩
    rw [appendInPlace_eq, failed]
    rfl

end Element

end Shorthand
