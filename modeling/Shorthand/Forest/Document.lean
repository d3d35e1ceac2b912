import Shorthand.Element.Html
import Shorthand.Element.Rows

/-!
# Documents

A document is a forest: its roots in the order of the source. Its HTML is the HTML of the roots
with a line feed between them and none at the end.
-/

namespace Shorthand

/-- A forest of elements. -/
structure Document where
  roots : List Element
deriving DecidableEq, Inhabited

namespace Document

/-- The HTML of the document. -/
def html (document : Document) (options : RenderOptions) : String :=
  "\n".intercalate (document.roots.map (Element.html options))

/-- The rows of the document in preorder. -/
def rows (document : Document) : List Row := forestRows document.roots

end Document

end Shorthand
