import Shorthand.Forest.Document
import Shorthand.Json.Value

/-!
# Documents as JSON

An element is an object with its name, its attributes, its children and, if it is set, its
text, in this order. Attributes are an object whose keys stand in the order of the attributes.
A document is an object with its roots.
-/

namespace Shorthand

/-- The attributes as an object. -/
def AttributeMap.json (attributes : AttributeMap) : Json :=
  .object (attributes.entries.map fun entry => (entry.1, .text entry.2))

namespace Element

mutual

/-- The element as an object; a text that is not set is left out. -/
def json : Element → Json
  | ⟨name, attributes, children, text⟩ =>
    .object
      ([("name", .text name), ("attributes", attributes.json),
        ("children", .list (forestJson children))] ++
        match text with
        | some value => [("text", .text value)]
        | none => [])

/-- The elements one by one. -/
def forestJson : List Element → List Json
  | [] => []
  | element :: rest => json element :: forestJson rest

end

end Element

/-- The document as an object. -/
def Document.json (document : Document) : Json :=
  .object [("roots", .list (Element.forestJson document.roots))]

end Shorthand
