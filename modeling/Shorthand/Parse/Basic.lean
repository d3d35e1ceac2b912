import Shorthand.Forest.Builder
import Shorthand.Forest.Document
import Shorthand.Line.Kind
import Shorthand.Parse.Error
import Shorthand.Parse.Options
import Shorthand.Parse.Traced

/-!
# Parsing

A parse goes over the lines of a source once. Every shorthand line gives an element, which is
settled in the forest at the depth of the line; what happens to a line that does not fit is up
to the options. Everything that happens to a line is reported as an event before the parse goes
on to the next line.
-/

namespace Shorthand

namespace Parse

/-! ## Where a nested line goes -/

/-- What a depth policy makes of the depth of a line. -/
inductive Placement where
  /-- There are enough open elements. -/
  | fits
  /-- The line goes below the innermost open element. -/
  | clamped
  /-- Nothing is open, so the line is dropped. -/
  | dropped
  /-- The line is refused. -/
  | refused
deriving DecidableEq, Repr

/-- Judges a depth when `height` elements are open. -/
def placement (policy : DepthPolicy) (depth height : Nat) : Placement :=
  if depth ≤ height then .fits
  else match policy with
    | .clamp => if height = 0 then .dropped else .clamped
    | .reject => .refused

/-! ## One line -/

/-- What a parse has gathered from the lines so far. -/
structure Progress where
  builder : ForestBuilder
  skipped : Nat

/-- Nothing gathered yet. -/
def Progress.start : Progress := ⟨.empty, 0⟩

/-- Settles an element at a depth. -/
def Progress.settle (progress : Progress) (depth : Nat) (element : Element) : Progress :=
  { progress with builder := progress.builder.settle depth element }

/-- Places an element at a depth that a policy has let pass. If the builder refuses it all the
same, the parse fails (`place_of_le` says when it does not). -/
def Progress.place (progress : Progress) (number : Nat) (line : String) (depth : Nat)
    (element : Element) : Traced ParseError Progress :=
  match progress.builder.place depth element with
  | .ok builder => .ok { progress with builder }
  | .error _ => .fail (.malformedDepth number line depth progress.builder.height)

/-- Counts a line that was left out. -/
def Progress.skip (progress : Progress) : Progress :=
  { progress with skipped := progress.skipped + 1 }

/-- Takes the element of a shorthand line, as far down as the policy lets it. -/
def elementLine (options : ParseOptions) (number : Nat) (line : String) (depth : Nat)
    (element : Element) (progress : Progress) : Traced ParseError Progress :=
  let height := progress.builder.height
  match placement options.depth depth height with
  | .fits => progress.place number line depth element
  | .clamped =>
    (Traced.report (.clampedDepth number depth height)).bind fun _ =>
      progress.place number line height element
  | .dropped => ⟨[.droppedNested number depth], .ok progress.skip⟩
  | .refused => .fail (.malformedDepth number line depth height)

/-- Takes a line that is not shorthand. Blank lines pass without notice. -/
def otherLine (options : ParseOptions) (number : Nat) (line : String) (progress : Progress) :
    Traced ParseError Progress :=
  if Text.isBlank line then .ok progress
  else match options.unrecognizedLines with
    | .skip => ⟨[.skippedLine number line], .ok progress.skip⟩
    | .reject => .fail (.unrecognizedLine number line)

/-- Takes one line. -/
def step (options : ParseOptions) (number : Nat) (line : String) (progress : Progress) :
    Traced ParseError Progress :=
  match Line.classify line with
  | .root fields =>
    (Traced.report (.rootElement number fields.tag)).bind fun _ =>
      elementLine options number line 0 fields.element progress
  | .nested depth fields =>
    (Traced.report (.nestedElement number depth fields.tag)).bind fun _ =>
      elementLine options number line depth fields.element progress
  | .unrecognized => otherLine options number line progress

/-! ## All lines -/

/-- Takes lines one after the other, the first of them with the given number. -/
def run (options : ParseOptions) (number : Nat) (progress : Progress) :
    List String → Traced ParseError Progress
  | [] => .ok progress
  | line :: rest =>
    (step options number line progress).bind fun after => run options (number + 1) after rest

/-- Closes what is still open and reports the end of the parse. -/
def finish (progress : Progress) : Traced ParseError Document :=
  let roots := progress.builder.forest
  ⟨[.parsed roots.length progress.skipped], .ok ⟨roots⟩⟩

end Parse

/-- Parses a source text. -/
def parse (options : ParseOptions) (source : String) : Traced ParseError Document :=
  (Parse.run options 1 .start (options.lineEndings.split source)).bind Parse.finish

namespace Parse

/-! ## First facts -/

theorem placement_of_le {policy : DepthPolicy} {depth height : Nat} (fits : depth ≤ height) :
    placement policy depth height = .fits := if_pos fits

theorem placement_reject_of_lt {depth height : Nat} (deep : height < depth) :
    placement .reject depth height = .refused := if_neg (Nat.not_le.2 deep)

theorem placement_clamp_of_lt {depth height : Nat} (deep : height < depth) :
    placement .clamp depth height = if height = 0 then .dropped else .clamped :=
  if_neg (Nat.not_le.2 deep)

/-- A clamping policy refuses no depth. -/
theorem placement_clamp_ne_refused (depth height : Nat) :
    placement .clamp depth height ≠ .refused := by
  unfold placement
  split
  · simp
  · dsimp only
    split <;> simp

/-- A builder takes every element for which it has enough open elements. -/
theorem Progress.place_of_le {progress : Progress} {depth : Nat}
    (fits : depth ≤ progress.builder.height) (number : Nat) (line : String) (element : Element) :
    progress.place number line depth element = .ok (progress.settle depth element) := by
  rw [Progress.place, ForestBuilder.place_of_le fits]
  rfl

theorem le_of_placement_fits {policy : DepthPolicy} {depth height : Nat}
    (h : placement policy depth height = .fits) : depth ≤ height := by
  unfold placement at h
  split at h
  · assumption
  · cases policy with
    | clamp =>
      dsimp only at h
      split at h <;> cases h
    | reject => cases h

/-- What becomes of an element. The builder refuses nothing that the policy has let pass, so
placing is settling. -/
theorem elementLine_eq (options : ParseOptions) (number : Nat) (line : String) (depth : Nat)
    (element : Element) (progress : Progress) :
    elementLine options number line depth element progress =
      match placement options.depth depth progress.builder.height with
      | .fits => .ok (progress.settle depth element)
      | .clamped =>
        ⟨[.clampedDepth number depth progress.builder.height],
          .ok (progress.settle progress.builder.height element)⟩
      | .dropped => ⟨[.droppedNested number depth], .ok progress.skip⟩
      | .refused => .fail (.malformedDepth number line depth progress.builder.height) := by
  unfold elementLine
  dsimp only
  split
  · next h => rw [Progress.place_of_le (le_of_placement_fits h)]
  · rw [Progress.place_of_le (Nat.le_refl _)]
    rfl
  · rfl
  · rfl

theorem run_append (options : ParseOptions) (number : Nat) (progress : Progress)
    (first second : List String) :
    run options number progress (first ++ second) =
      (run options number progress first).bind fun after =>
        run options (number + first.length) after second := by
  induction first generalizing number progress with
  | nil => simp [run]
  | cons line rest ih =>
    simp only [List.cons_append, run, ih, Traced.bind_assoc, List.length_cons]
    congr
    funext after
    rw [Nat.add_assoc, Nat.add_comm 1]

end Parse

end Shorthand
