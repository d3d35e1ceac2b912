/-!
# The vocabulary

The element names that may start a line of shorthand, and the void elements, which are written
without content and without a closing tag. Both lists are closed and case-sensitive.
-/

namespace Shorthand

/-- The names that may start a line of shorthand, in alphabetical order. -/
def shorthandTags : List String :=
  ["a", "abbr", "address", "area", "article", "aside", "audio", "b", "base", "bdo",
    "blockquote", "body", "br", "button", "canvas", "caption", "cite", "code", "col",
    "colgroup", "command", "datalist", "dd", "defs", "del", "details", "dfn", "div", "dl",
    "dt", "em", "embed", "fieldset", "figcaption", "figure", "footer", "form", "h1", "h2",
    "h3", "h4", "h5", "head", "header", "hgroup", "hr", "html", "i", "iframe", "img",
    "input", "ins", "kbd", "keygen", "label", "legend", "li", "link", "map", "mark", "math",
    "menu", "meta", "meter", "nav", "noscript", "object", "ol", "optgroup", "option",
    "output", "p", "param", "path", "pre", "progress", "q", "rp", "rt", "ruby", "samp",
    "script", "section", "select", "small", "source", "span", "strong", "style", "sub",
    "summary", "sup", "svg", "symbol", "table", "tbody", "td", "textarea", "tfoot", "th",
    "thead", "time", "title", "tr", "track", "ul", "use", "var", "video", "wbr"]

/-- The names of the void elements. -/
def voidTags : List String := ["img", "link", "meta", "br", "hr", "input", "area", "param"]

/-- Whether a name may start a line of shorthand. -/
def isShorthandTag (name : String) : Bool := shorthandTags.contains name

/-- Whether a name is that of a void element. -/
def isVoidTag (name : String) : Bool := voidTags.contains name

end Shorthand
