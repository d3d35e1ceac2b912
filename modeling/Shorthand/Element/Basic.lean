import Shorthand.Attribute.Map
import Shorthand.Attribute.Segment
import Shorthand.Text.LowerCase
import Shorthand.Vocabulary

/-!
# Elements

An element has a name, attributes, children and perhaps a text. An unset text and an empty text
are different. Elements are compared part by part, the order of attributes included.
-/

namespace Shorthand

/-- One element with everything below it. -/
structure Element where
  name : String
  attributes : AttributeMap
  children : List Element
  text : Option String
deriving Inhabited

namespace Element

/-- Shows a property of an element from that of its children. -/
theorem induction {motive : Element → Prop}
    (step : ∀ name attributes children text, (∀ child ∈ children, motive child) →
      motive ⟨name, attributes, children, text⟩) : ∀ element, motive element
  | ⟨name, attributes, children, text⟩ =>
    step name attributes children text fun child _ => induction step child

/-! ## Equality -/

mutual

/-- Decides whether two elements are equal in all their parts. -/
def decEq : (a b : Element) → Decidable (a = b)
  | ⟨name, attributes, children, text⟩, ⟨name', attributes', children', text'⟩ =>
    if head : name = name' ∧ attributes = attributes' ∧ text = text' then
      match decEqForest children children' with
      | isTrue below => isTrue (by obtain ⟨rfl, rfl, rfl⟩ := head; rw [below])
      | isFalse below => isFalse (by rintro ⟨⟩; exact below rfl)
    else isFalse (by rintro ⟨⟩; exact head ⟨rfl, rfl, rfl⟩)

/-- Decides whether two lists of elements are equal. -/
def decEqForest : (a b : List Element) → Decidable (a = b)
  | [], [] => isTrue rfl
  | [], _ :: _ => isFalse (by rintro ⟨⟩)
  | _ :: _, [] => isFalse (by rintro ⟨⟩)
  | a :: as, b :: bs =>
    match decEq a b with
    | isTrue first =>
      match decEqForest as bs with
      | isTrue rest => isTrue (by rw [first, rest])
      | isFalse rest => isFalse (by rintro ⟨⟩; exact rest rfl)
    | isFalse first => isFalse (by rintro ⟨⟩; exact first rfl)

end

instance : DecidableEq Element := decEq

/-! ## Making elements -/

/-- An element without attributes, children and text; its name is put into lower case. -/
def new (tag : String) : Element := ⟨Text.lowerCase tag, .empty, [], none⟩

/-- Whether the element is written without content and without a closing tag. -/
def isVoid (element : Element) : Bool := isVoidTag element.name

/-- Adds an attribute; a value that the key has already stays in front of the new one. -/
def addAttribute (element : Element) (key value : String) : Element :=
  { element with attributes := element.attributes.insert key value }

/-- Sets the text; a text that was set before is forgotten. -/
def setText (element : Element) (text : String) : Element := { element with text := some text }

/-- Adds a child behind the other children. -/
def pushChild (element child : Element) : Element :=
  { element with children := element.children ++ [child] }

/-- The attributes that the parts of a line stand for, in the order in which they are inserted:
the id if it is not empty, a class for every class token but the first, and the raw attributes
that read as pairs. The first class token is what stands before the first dot. -/
def shorthandAttributes (id : String) (classTokens rawAttributes : List String) :
    List (String × String) :=
  (if id = "" then [] else [("id", id)]) ++
    (classTokens.drop 1).map (fun token => ("class", token)) ++
    rawAttributes.filterMap Attribute.readPair?

/-- The element that the parts of a line describe. Its text is always set. -/
def ofShorthand (tag id : String) (classTokens rawAttributes : List String) (text : String) :
    Element :=
  ⟨Text.lowerCase tag, AttributeMap.empty.insertAll (shorthandAttributes id classTokens rawAttributes),
    [], some text⟩

end Element

end Shorthand
