import Shorthand.Element.Attach

/-!
# Building a forest

A builder takes elements one after the other, each with a depth, and hands out the forest at the
end. It keeps the chain of open elements, from the newest root down to the newest element; an
element joins its parent when it is closed. Placing at a depth closes everything that is open
at that depth or below it, so afterwards exactly `depth + 1` elements are open
(`height_place`).
-/

namespace Shorthand

/-- A forest in the making: the roots that are finished, and the open elements, innermost
first. -/
structure ForestBuilder where
  finished : List Element
  opened : List Element

namespace ForestBuilder

/-- The builder that has taken nothing. -/
def empty : ForestBuilder := ⟨[], []⟩

instance : EmptyCollection ForestBuilder := ⟨empty⟩

instance : Inhabited ForestBuilder := ⟨empty⟩

/-- The number of open elements. -/
def height (builder : ForestBuilder) : Nat := builder.opened.length

/-- Closes the innermost open element: it becomes the last child of the one around it, or the
last finished root. -/
def closeInnermost : ForestBuilder → ForestBuilder
  | ⟨finished, []⟩ => ⟨finished, []⟩
  | ⟨finished, [root]⟩ => ⟨finished ++ [root], []⟩
  | ⟨finished, inner :: parent :: outer⟩ => ⟨finished, parent.pushChild inner :: outer⟩

/-- Closes the given number of open elements, innermost first. -/
def close : Nat → ForestBuilder → ForestBuilder
  | 0, builder => builder
  | count + 1, builder => close count builder.closeInnermost

/-- Closes open elements until no more than the given number is left. -/
def closeTo (builder : ForestBuilder) (height : Nat) : ForestBuilder :=
  builder.close (builder.height - height)

/-- Opens an element inside the innermost open one. -/
def push (builder : ForestBuilder) (element : Element) : ForestBuilder :=
  { builder with opened := element :: builder.opened }

/-- Closes what is open at a depth and below it, then opens an element there. -/
def settle (builder : ForestBuilder) (depth : Nat) (element : Element) : ForestBuilder :=
  (builder.closeTo depth).push element

/-- Places an element at a depth. There must be at least that many open elements. -/
def place (builder : ForestBuilder) (depth : Nat) (element : Element) :
    Except AttachError ForestBuilder :=
  if depth ≤ builder.height then .ok (builder.settle depth element)
  else .error (.depthOutOfRange depth builder.height)

/-- Places an element in the builder that is at hand, step by step. What had been changed before a
failure would stay changed. -/
def placeInPlace (depth : Nat) (element : Element) :
    StateM ForestBuilder (Except AttachError Unit) := do
  let height := (← get).height
  if height < depth then return .error (.depthOutOfRange depth height)
  modify (·.closeTo depth)
  modify (·.push element)
  return .ok ()

/-- The forest of all elements taken. -/
def forest (builder : ForestBuilder) : List Element := (builder.closeTo 0).finished

/-! ## Heights -/

@[simp] theorem height_empty : empty.height = 0 := rfl

@[simp] theorem height_push (builder : ForestBuilder) (element : Element) :
    (builder.push element).height = builder.height + 1 := rfl

@[simp] theorem height_closeInnermost (builder : ForestBuilder) :
    builder.closeInnermost.height = builder.height - 1 := by
  obtain ⟨finished, opened⟩ := builder
  match opened with
  | [] => rfl
  | [_] => rfl
  | _ :: _ :: _ => rfl

@[simp] theorem height_close (count : Nat) (builder : ForestBuilder) :
    (builder.close count).height = builder.height - count := by
  induction count generalizing builder with
  | zero => rfl
  | succ count ih => rw [close, ih, height_closeInnermost, Nat.sub_sub, Nat.add_comm]

theorem height_closeTo (builder : ForestBuilder) (height : Nat) :
    (builder.closeTo height).height = min builder.height height := by
  rw [closeTo, height_close]
  omega

/-- Closing everything leaves nothing open. -/
theorem opened_closeTo_zero (builder : ForestBuilder) : (builder.closeTo 0).opened = [] := by
  apply List.eq_nil_of_length_eq_zero
  show (builder.closeTo 0).height = 0
  rw [height_closeTo, Nat.min_zero]

theorem height_settle {builder : ForestBuilder} {depth : Nat} (fits : depth ≤ builder.height)
    (element : Element) : (builder.settle depth element).height = depth + 1 := by
  rw [settle, height_push, height_closeTo]
  omega

theorem place_of_le {builder : ForestBuilder} {depth : Nat} (fits : depth ≤ builder.height)
    (element : Element) : builder.place depth element = .ok (builder.settle depth element) :=
  if_pos fits

/-- An element is placed exactly when enough elements are open. -/
theorem place_isOk_iff {builder : ForestBuilder} {depth : Nat} {element : Element} :
    (∃ after, builder.place depth element = .ok after) ↔ depth ≤ builder.height := by
  unfold place
  split
  · next h => simp [h]
  · next h => simp [h]

/-- In place or not, the same builder comes out; and a failure leaves the one that was there. -/
theorem run_placeInPlace (builder : ForestBuilder) (depth : Nat) (element : Element) :
    (placeInPlace depth element).run builder =
      match builder.place depth element with
      | .ok after => (.ok (), after)
      | .error cause => (.error cause, builder) := by
  simp only [placeInPlace, StateT.run_bind, StateT.run_get, pure_bind]
  rcases Nat.lt_or_ge builder.height depth with deep | fits
  · rw [place, if_neg (Nat.not_le.2 deep), if_pos deep]
    rfl
  · rw [place_of_le fits, if_neg (Nat.not_lt.2 fits)]
    rfl

/-- After a placing one more element is open than the depth says. -/
theorem height_place {builder after : ForestBuilder} {depth : Nat} {element : Element}
    (h : builder.place depth element = .ok after) : after.height = depth + 1 := by
  unfold place at h
  split at h
  · next fits =>
    cases h
    exact height_settle fits element
  · cases h

end ForestBuilder

end Shorthand
