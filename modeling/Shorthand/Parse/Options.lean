import Shorthand.Line.Endings

/-!
# Parse options

Two policies say what happens to lines that do not fit, and the line endings say how the source
is cut. With the default options every source can be parsed.
-/

namespace Shorthand

/-- What to do with a line that is neither blank nor shorthand. -/
inductive LinePolicy where
  | skip
  | reject
deriving DecidableEq, Repr, Inhabited

/-- What to do with a nested line that is deeper than the open elements allow. -/
inductive DepthPolicy where
  | clamp
  | reject
deriving DecidableEq, Repr, Inhabited

/-- The options of a parse. -/
structure ParseOptions where
  unrecognizedLines : LinePolicy := .skip
  depth : DepthPolicy := .clamp
  lineEndings : LineEndings := .any
deriving DecidableEq, Repr

namespace ParseOptions

instance : Inhabited ParseOptions := ⟨{}⟩

/-- Both policies reject; line endings are as by default. -/
def strict : ParseOptions := { unrecognizedLines := .reject, depth := .reject }

/-- The same options with both policies rejecting. -/
def rejecting (options : ParseOptions) : ParseOptions :=
  { options with unrecognizedLines := .reject, depth := .reject }

/-- The same options with no policy rejecting. -/
def lenient (options : ParseOptions) : ParseOptions :=
  { options with unrecognizedLines := .skip, depth := .clamp }

end ParseOptions

namespace LinePolicy

/-- The word for a policy. -/
def word : LinePolicy → String
  | skip => "skip"
  | reject => "reject"

/-- All policies. -/
def all : List LinePolicy := [skip, reject]

end LinePolicy

namespace DepthPolicy

/-- The word for a policy. -/
def word : DepthPolicy → String
  | clamp => "clamp"
  | reject => "reject"

/-- All policies. -/
def all : List DepthPolicy := [clamp, reject]

end DepthPolicy

namespace LineEndings

/-- The word for a way to cut lines. -/
def word : LineEndings → String
  | any => "any"
  | crlf => "crlf"

/-- All ways to cut lines. -/
def all : List LineEndings := [any, crlf]

end LineEndings

end Shorthand
