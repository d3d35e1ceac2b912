import Shorthand.Element.Basic

/-!
# HTML of an element

An element is written as its opening tag, its text, its children and its closing tag. Every
child starts on a new line behind one indent, whatever its depth: the lines of a child are not
shifted further. A void element is written `<name … />`, without its text and its children.
Nothing is escaped.
-/

namespace Shorthand

/-- How a document is laid out as HTML: what is put in front of each child, a tab unless said
otherwise. -/
structure RenderOptions where
  indent : String := "\t"
deriving DecidableEq, Repr

instance : Inhabited RenderOptions := ⟨{}⟩

namespace Element

/-- An attribute as it stands in an opening tag. -/
def attributeHtml (entry : String × String) : String :=
  " " ++ entry.1 ++ "=\"" ++ entry.2 ++ "\""

/-- The opening tag without its closing angle bracket. -/
def openingHtml (name : String) (attributes : AttributeMap) : String :=
  "<" ++ name ++ String.join (attributes.entries.map attributeHtml)

mutual

/-- The HTML of an element. -/
def html (options : RenderOptions) : Element → String
  | ⟨name, attributes, children, text⟩ =>
    if isVoidTag name then openingHtml name attributes ++ " />"
    else
      openingHtml name attributes ++ ">" ++ text.getD "" ++ childrenHtml options children ++
        (if children.isEmpty then "" else "\n") ++ "</" ++ name ++ ">"

/-- The HTML of children, each on a line of its own behind one indent. -/
def childrenHtml (options : RenderOptions) : List Element → String
  | [] => ""
  | child :: rest => "\n" ++ options.indent ++ html options child ++ childrenHtml options rest

end

end Element

end Shorthand
