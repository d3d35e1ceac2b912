import Shorthand.Element.Basic

/-!
# Rows of a forest

A forest laid out as a list: one row per element in preorder, each with its depth. The rows say
everything about a forest, since depth and order fix who is whose child.
-/

namespace Shorthand

/-- One element of a forest without what is below it. -/
structure Row where
  depth : Nat
  name : String
  attributes : AttributeMap
  text : Option String
  childCount : Nat
deriving DecidableEq

namespace Element

mutual

/-- The rows of an element that stands at the given depth. -/
def rowsAt (depth : Nat) : Element → List Row
  | ⟨name, attributes, children, text⟩ =>
    ⟨depth, name, attributes, text, children.length⟩ :: forestRowsAt (depth + 1) children

/-- The rows of elements that stand next to each other at the given depth. -/
def forestRowsAt (depth : Nat) : List Element → List Row
  | [] => []
  | element :: rest => rowsAt depth element ++ forestRowsAt depth rest

end

theorem forestRowsAt_append (depth : Nat) (first second : List Element) :
    forestRowsAt depth (first ++ second) =
      forestRowsAt depth first ++ forestRowsAt depth second := by
  induction first with
  | nil => rfl
  | cons element rest ih => simp [forestRowsAt, ih]

end Element

/-- The rows of a forest, its roots at depth zero. -/
def forestRows (forest : List Element) : List Row := Element.forestRowsAt 0 forest

end Shorthand
