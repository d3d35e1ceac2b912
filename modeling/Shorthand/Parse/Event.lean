/-!
# Events

What a parse reports while it goes over the lines, and what is reported of reading and writing
files. Line numbers count from one. Where an event goes is not settled here; the `tracing` library is
taken to hand events on in their order.
-/

namespace Shorthand

/-- How much an event matters. -/
inductive Level where
  | trace
  | debug
deriving DecidableEq, Repr

/-- The word for a level. -/
def Level.word : Level → String
  | trace => "TRACE"
  | debug => "DEBUG"

/-- Something worth reporting. -/
inductive Event where
  /-- A line starts a root. -/
  | rootElement (line : Nat) (tag : String)
  /-- A line is nested. -/
  | nestedElement (line depth : Nat) (tag : String)
  /-- A nested line is dropped because nothing is open. -/
  | droppedNested (line depth : Nat)
  /-- A nested line is put at the deepest place there is. -/
  | clampedDepth (line depth height : Nat)
  /-- A line that is not shorthand is passed over. -/
  | skippedLine (line : Nat) (content : String)
  /-- A parse is done; `skipped` counts the lines that were dropped or passed over. -/
  | parsed (roots skipped : Nat)
  /-- A source has been read. -/
  | loadedSource (path : String) (bytes : Nat)
  /-- An output has been written. -/
  | wroteOutput (path : String) (bytes : Nat)
deriving DecidableEq, Repr

namespace Event

/-- How much the event matters. -/
def level : Event → Level
  | rootElement .. | nestedElement .. => .trace
  | droppedNested .. | clampedDepth .. | skippedLine .. | parsed .. | loadedSource ..
  | wroteOutput .. => .debug

/-- The event in words, without its particulars. -/
def message : Event → String
  | rootElement .. => "root element"
  | nestedElement .. => "nested element"
  | droppedNested .. => "dropping nested line with no open element"
  | clampedDepth .. => "clamping indentation"
  | skippedLine .. => "skipping unrecognized line"
  | parsed .. => "parsed shorthand document"
  | loadedSource .. => "loaded shorthand source"
  | wroteOutput .. => "wrote html output"

end Event

end Shorthand
