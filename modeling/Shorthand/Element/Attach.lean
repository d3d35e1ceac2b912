import Shorthand.Element.Basic

/-!
# Attaching below an element

`appendBelow` follows the last child, level by level, and adds a child there. It fails when it
has to go down from an element that has no children. Done in place (`appendInPlace`), it puts every
last child back into its parent on the way up, changed or not; that a failure changes nothing is
therefore proved (`appendInPlace_eq`). `AttachError` holds the causes for which an element cannot be
attached, here and in the building of a forest.
-/

namespace Shorthand

/-- Why an element could not be attached. -/
inductive AttachError where
  /-- There was no child to go down to, with some levels still to go. -/
  | noOpenChild (parent : String) (remaining : Nat)
  /-- The depth is greater than the number of open elements. -/
  | depthOutOfRange (depth height : Nat)
deriving DecidableEq, Repr

/-- The cause in words. -/
def AttachError.message : AttachError → String
  | noOpenChild parent remaining =>
    "Cannot descend " ++ toString remaining ++ " more level(s): <" ++ parent ++
      "> has no children"
  | depthOutOfRange depth height =>
    "Cannot place an element at depth " ++ toString depth ++ " with only " ++ toString height ++
      " open element(s)"

namespace Element

/-- Puts another element in the place of the last child. -/
def replaceLast (parent last : Element) : Element :=
  { parent with children := parent.children.dropLast ++ [last] }

/-- Adds a child the given number of levels further down, always below the last child. -/
def appendBelow (parent child : Element) : Nat → Except AttachError Element
  | 0 => .ok (parent.pushChild child)
  | depth + 1 =>
    match parent.children.getLast? with
    | some last => (last.appendBelow child depth).map parent.replaceLast
    | none => .error (.noOpenChild parent.name (depth + 1))

/-- Adds a child like `appendBelow` to the element that is at hand, and says whether it went well:
on the way back up every last child is put into its parent again, whatever has become of it. -/
def appendInPlace (parent child : Element) : Nat → Element × Except AttachError Unit
  | 0 => (parent.pushChild child, .ok ())
  | depth + 1 =>
    match parent.children.getLast? with
    | some last =>
      (parent.replaceLast (last.appendInPlace child depth).1, (last.appendInPlace child depth).2)
    | none => (parent, .error (.noOpenChild parent.name (depth + 1)))

/-! ## Down one level -/

variable {parent last : Element}

theorem appendBelow_of_getLast? (h : parent.children.getLast? = some last) (child : Element)
    (depth : Nat) :
    parent.appendBelow child (depth + 1) =
      (last.appendBelow child depth).map parent.replaceLast := by
  rw [appendBelow, h]

theorem appendBelow_of_childless (h : parent.children = []) (child : Element) (depth : Nat) :
    parent.appendBelow child (depth + 1) = .error (.noOpenChild parent.name (depth + 1)) := by
  rw [appendBelow, h]
  rfl

theorem replaceLast_of_getLast? (h : parent.children.getLast? = some last) :
    parent.replaceLast last = parent := by
  obtain ⟨name, attributes, children, text⟩ := parent
  obtain ⟨others, rfl⟩ := List.getLast?_eq_some_iff.1 h
  rw [replaceLast, List.dropLast_concat]

/-- In place or not, the same element comes out; and a failure leaves the one that was there. -/
theorem appendInPlace_eq (parent child : Element) (depth : Nat) :
    parent.appendInPlace child depth =
      match parent.appendBelow child depth with
      | .ok after => (after, .ok ())
      | .error cause => (parent, .error cause) := by
  induction depth generalizing parent with
  | zero => rfl
  | succ depth ih =>
    cases found : parent.children.getLast? with
    | none =>
      rw [appendInPlace, found, appendBelow_of_childless (List.getLast?_eq_none_iff.1 found)]
    | some last =>
      rw [appendInPlace, found, appendBelow_of_getLast? found]
      show (parent.replaceLast (last.appendInPlace child depth).1, _) = _
      rw [ih last]
      cases last.appendBelow child depth with
      | ok after => rfl
      | error cause =>
        show (parent.replaceLast last, _) = (parent, _)
        rw [replaceLast_of_getLast? found]

end Element

end Shorthand
