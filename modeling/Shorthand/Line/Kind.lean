import Shorthand.Element.Basic
import Shorthand.Line.Reading
import Shorthand.Text.Blank

/-!
# Kinds of lines

Every line is judged on its own. It is shorthand when it can be read and its tag is in the
vocabulary; then its leading spaces tell how far below the newest root its element stands, and
a line without leading spaces starts a new root. Everything else is unrecognized.
-/

namespace Shorthand.Line

/-- The parts of a shorthand line that make its element. The first class token is what stands
before the first dot, so it is always empty; the attributes are pieces of the attribute run. -/
structure Fields where
  tag : String
  id : String
  classTokens : List String
  attributes : List String
  text : String
deriving DecidableEq, Repr

/-- The element that the fields describe. -/
def Fields.element (fields : Fields) : Element :=
  Element.ofShorthand fields.tag fields.id fields.classTokens fields.attributes fields.text

/-- The fields of a reading: the class run is cut at its dots and the attribute run into its
segments. -/
def Reading.fields (reading : Reading) : Fields where
  tag := String.ofList reading.tag
  id := String.ofList reading.id
  classTokens := (Text.splitOn '.' reading.classRun).map String.ofList
  attributes := (Attribute.segmentRun (attributeRun reading.pairs)).map String.ofList
  text := String.ofList reading.text

/-- What a line is. -/
inductive Kind where
  /-- The line starts a new root. -/
  | root (fields : Fields)
  /-- The line stands the given number of levels, at least one, below the newest root. -/
  | nested (depth : Nat) (fields : Fields)
  /-- The line is not shorthand. -/
  | unrecognized
deriving DecidableEq, Repr

/-- The kind of a reading whose tag is in the vocabulary. -/
def Reading.kind (reading : Reading) : Kind :=
  if reading.depth = 0 then .root reading.fields else .nested reading.depth reading.fields

/-- The kind of a line. -/
def classify (line : String) : Kind :=
  match read? line.toList with
  | some reading =>
    if isShorthandTag (String.ofList reading.tag) then reading.kind else .unrecognized
  | none => .unrecognized

theorem depth_ne_zero_of_nested {line : String} {depth : Nat} {fields : Fields}
    (kind : classify line = .nested depth fields) : depth ≠ 0 := by
  unfold classify at kind
  split at kind
  · split at kind
    · unfold Reading.kind at kind
      split at kind
      · cases kind
      · next deep =>
        cases kind
        exact deep
    · cases kind
  · cases kind

namespace Kind

/-- The depth and the fields of a shorthand line; a root has depth zero. -/
def placed? : Kind → Option (Nat × Fields)
  | root fields => some (0, fields)
  | nested depth fields => some (depth, fields)
  | unrecognized => none

/-- Whether the line is shorthand. -/
def isShorthand (kind : Kind) : Bool := kind.placed?.isSome

end Kind

end Shorthand.Line
