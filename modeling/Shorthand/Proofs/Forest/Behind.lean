import Shorthand.Forest.Builder

/-!
# Building behind a finished forest

A builder never looks at the roots that it has finished. Whatever it does, it does in the same way
behind other roots that were finished before (`settle_behind`, `forest_behind`). A builder that
takes a root forgets what was open, so from there on it is a fresh builder behind the forest it
has made so far (`settle_zero_eq_behind`).
-/

namespace Shorthand.ForestBuilder

/-- The builder with other roots finished before its own. -/
def behind (prior : List Element) (builder : ForestBuilder) : ForestBuilder :=
  ⟨prior ++ builder.finished, builder.opened⟩

variable (prior : List Element) (builder : ForestBuilder)

@[simp] theorem height_behind : (builder.behind prior).height = builder.height := rfl

theorem closeInnermost_behind :
    (builder.behind prior).closeInnermost = builder.closeInnermost.behind prior := by
  obtain ⟨finished, opened⟩ := builder
  match opened with
  | [] => rfl
  | [root] => simp [behind, closeInnermost]
  | inner :: parent :: outer => rfl

theorem close_behind (count : Nat) :
    (builder.behind prior).close count = (builder.close count).behind prior := by
  induction count generalizing builder with
  | zero => rfl
  | succ count ih => rw [close, close, closeInnermost_behind, ih]

theorem closeTo_behind (height : Nat) :
    (builder.behind prior).closeTo height = (builder.closeTo height).behind prior :=
  close_behind prior builder _

theorem settle_behind (depth : Nat) (element : Element) :
    (builder.behind prior).settle depth element = (builder.settle depth element).behind prior := by
  rw [settle, settle, closeTo_behind]
  rfl

theorem forest_behind : (builder.behind prior).forest = prior ++ builder.forest := by
  rw [forest, closeTo_behind]
  rfl

/-- **A root closes everything**: with it a fresh builder starts behind the forest so far. -/
theorem settle_zero_eq_behind (element : Element) :
    builder.settle 0 element = (empty.settle 0 element).behind builder.forest := by
  have closed : builder.closeTo 0 = ⟨builder.forest, []⟩ := by
    rw [← opened_closeTo_zero builder]
    rfl
  rw [settle, closed]
  simp [behind, settle, closeTo, close, push, empty, height]

end Shorthand.ForestBuilder
