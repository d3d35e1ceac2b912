import Shorthand.Proofs.Forest.Outline
import Shorthand.Proofs.Parse.Report

/-!
# The outline of a parsed document

A document that comes out of a parse holds one element for each shorthand line from the first root
on, in the order of the lines. The policies decide whether a parse succeeds, and not what it
builds: a run that succeeds has folded its shorthand lines into the builder (`builder_of_run`),
and the fold is described by depths alone (`outline_foldl_of_open`, `outline_foldl_of_closed`).
-/

namespace Shorthand

namespace Parse

open Line (Fields)

/-! ## The lines that count -/

/-- The shorthand lines among the lines of a source, each with its depth. -/
def shorthandLines (lines : List String) : List (Nat × Fields) :=
  lines.filterMap fun line => (Line.classify line).placed?

def keptLines (lines : List String) : List (Nat × Fields) :=
  (shorthandLines lines).dropWhile (·.1 ≠ 0)

/-- Lets the first line stand no deeper than `limit`, and every other line no deeper than one level
below the line before it. -/
def clampDepths (limit : Nat) : List (Nat × Fields) → List (Nat × Fields)
  | [] => []
  | (depth, fields) :: rest =>
    (min depth limit, fields) :: clampDepths (min depth limit + 1) rest

def lineEntry (line : Nat × Fields) : Entry := line.2.element.entryAt line.1

/-! ## One line -/

/-- What a shorthand line does to the builder when the parse goes on. -/
def takeLine (builder : ForestBuilder) (line : Nat × Fields) : ForestBuilder :=
  if line.1 ≠ 0 ∧ builder.height = 0 then builder
  else builder.settle (min line.1 builder.height) line.2.element

theorem takeLine_of_le {builder : ForestBuilder} {depth : Nat} (fits : depth ≤ builder.height)
    (fields : Fields) :
    takeLine builder (depth, fields) = builder.settle depth fields.element := by
  rw [takeLine, if_neg (show ¬ (depth ≠ 0 ∧ builder.height = 0) by omega), Nat.min_eq_left fits]

theorem takeLine_of_open {builder : ForestBuilder} (opened : builder.height ≠ 0) (depth : Nat)
    (fields : Fields) :
    takeLine builder (depth, fields) =
      builder.settle (min depth builder.height) fields.element := by
  rw [takeLine, if_neg (show ¬ (depth ≠ 0 ∧ builder.height = 0) by omega)]

theorem takeLine_of_closed {builder : ForestBuilder} (closed : builder.height = 0) {depth : Nat}
    (deep : depth ≠ 0) (fields : Fields) : takeLine builder (depth, fields) = builder :=
  if_pos ⟨deep, closed⟩

theorem Report.builder {number : Nat} {line : String} {before after : Progress}
    {events : List Event} (h : Report number line before events after) :
    after.builder = ((Line.classify line).placed?.toList).foldl takeLine before.builder := by
  cases h with
  | root kind =>
    rw [kind]
    exact (takeLine_of_le (Nat.zero_le _) _).symm
  | nested kind fits =>
    rw [kind]
    exact (takeLine_of_le fits _).symm
  | @clamped depth fields kind deep opened =>
    have taken := takeLine_of_open opened depth fields
    rw [Nat.min_eq_right (by omega)] at taken
    rw [kind]
    exact taken.symm
  | dropped kind closed =>
    rw [kind]
    exact (takeLine_of_closed closed (Line.depth_ne_zero_of_nested kind) _).symm
  | blank kind | skipped kind =>
    rw [kind]
    rfl

/-! ## All lines -/

/-- A run that succeeds has taken the shorthand lines one after the other, whatever the options
are and whatever lines stand between them. -/
theorem builder_of_run {options : ParseOptions} {number : Nat} {lines : List String}
    {progress after : Progress} (h : (run options number progress lines).outcome = .ok after) :
    after.builder = (shorthandLines lines).foldl takeLine progress.builder := by
  induction lines generalizing number progress with
  | nil =>
    cases h
    rfl
  | cons line rest ih =>
    obtain ⟨between, first, others⟩ := Traced.outcome_bind_eq_ok.1 h
    have split : shorthandLines (line :: rest) =
        (Line.classify line).placed?.toList ++ shorthandLines rest := by
      cases placed : (Line.classify line).placed? <;> simp [shorthandLines, placed]
    rw [ih others, (report_of_step first).builder, split, List.foldl_append]

theorem roots_of_parse {options : ParseOptions} {source : String} {document : Document}
    (h : (parse options source).outcome = .ok document) :
    document.roots =
      ((shorthandLines (options.lineEndings.split source)).foldl takeLine .empty).forest := by
  obtain ⟨after, ran, finished⟩ := Traced.outcome_bind_eq_ok.1 h
  cases finished
  rw [builder_of_run ran]
  rfl

/-! ## The outline of what is taken -/

theorem outline_settle_fields {builder : ForestBuilder} {depth : Nat}
    (fits : depth ≤ builder.height) (fields : Fields) :
    (builder.settle depth fields.element).outline =
      builder.outline ++ [lineEntry (depth, fields)] :=
  ForestBuilder.outline_settle fits fields.element

/-- While an element is open every line is kept, at the depth of its own or at the deepest there
is; afterwards as many elements are open as the next line may go down. -/
theorem outline_foldl_of_open {builder : ForestBuilder} (opened : builder.height ≠ 0)
    (lines : List (Nat × Fields)) :
    (lines.foldl takeLine builder).outline =
      builder.outline ++ (clampDepths builder.height lines).map lineEntry := by
  induction lines generalizing builder with
  | nil => exact (List.append_nil _).symm
  | cons line rest ih =>
    obtain ⟨depth, fields⟩ := line
    have fits : min depth builder.height ≤ builder.height := Nat.min_le_right ..
    have taken := takeLine_of_open opened depth fields
    have height : (takeLine builder (depth, fields)).height = min depth builder.height + 1 := by
      rw [taken, ForestBuilder.height_settle fits]
    rw [List.foldl_cons, ih (by omega), height, taken, outline_settle_fields fits,
      List.append_assoc]
    rfl

/-- While nothing is open only a root is taken, so what comes before the first root is left out. -/
theorem outline_foldl_of_closed {builder : ForestBuilder} (closed : builder.height = 0)
    (lines : List (Nat × Fields)) :
    (lines.foldl takeLine builder).outline =
      builder.outline ++ (clampDepths 0 (lines.dropWhile (·.1 ≠ 0))).map lineEntry := by
  induction lines with
  | nil => exact (List.append_nil _).symm
  | cons line rest ih =>
    obtain ⟨depth, fields⟩ := line
    cases depth with
    | zero =>
      have fits : 0 ≤ builder.height := Nat.zero_le _
      have taken := takeLine_of_le fits fields
      have height : (takeLine builder (0, fields)).height = 1 := by
        rw [taken, ForestBuilder.height_settle fits]
      rw [List.foldl_cons, outline_foldl_of_open (by omega), height, taken,
        outline_settle_fields fits, List.append_assoc]
      rfl
    | succ depth =>
      rw [List.foldl_cons, takeLine_of_closed closed (Nat.succ_ne_zero depth), ih]
      rfl

/-- **The outline of a document**: the preorder walk of a parsed document visits one element for
each shorthand line from the first root on, in the order of the lines, at most one level below the
element before it and else at the depth of the line. No other forest has that walk; and sources
that agree in their shorthand lines give the same document, whatever else they hold. -/
theorem rows_of_parse {options : ParseOptions} {source : String} {document : Document}
    (h : (parse options source).outcome = .ok document) :
    document.rows.map Row.entry =
        (clampDepths 0 (keptLines (options.lineEndings.split source))).map lineEntry ∧
      (∀ forest, (forestRows forest).map Row.entry = document.rows.map Row.entry →
        forest = document.roots) ∧
      ∀ options' source' document', (parse options' source').outcome = .ok document' →
        shorthandLines (options'.lineEndings.split source') =
            shorthandLines (options.lineEndings.split source) →
          document' = document := by
  have roots := roots_of_parse h
  refine ⟨?_, ?_, ?_⟩
  · show Element.outlineAt 0 document.roots = _
    rw [roots, ForestBuilder.outlineAt_forest, outline_foldl_of_closed rfl,
      ForestBuilder.outline_empty, List.nil_append, keptLines]
  · intro forest same
    exact Element.outlineAt_injective same
  · intro options' source' document' h' same
    have roots' := roots_of_parse h'
    rw [same, ← roots] at roots'
    cases document
    cases document'
    cases roots'
    rfl

/-- A line before the first root, one that is too deep, a blank one and one of prose; the last two
can be left out. -/
theorem rows_of_parse_uneven :
    ∃ document, (parse {} " p\ndiv\n   span.x\n\nwidget\n p hi").outcome = .ok document ∧
      document.rows.map Row.entry =
        [⟨0, "div", .empty, some ""⟩, ⟨1, "span", AttributeMap.empty.insert "class" "x", some ""⟩,
          ⟨1, "p", .empty, some "hi"⟩] ∧
      (parse { lineEndings := .crlf } " p\r\ndiv\r\n   span.x\r\n p hi").outcome =
        .ok document := by
  obtain ⟨document, parsed⟩ := Traced.exists_of_isOk
    (show (parse {} " p\ndiv\n   span.x\n\nwidget\n p hi").outcome.isOk = true by decide +kernel)
  obtain ⟨document', parsed'⟩ := Traced.exists_of_isOk
    (show (parse { lineEndings := .crlf }
      " p\r\ndiv\r\n   span.x\r\n p hi").outcome.isOk = true by decide +kernel)
  obtain ⟨rows, -, same⟩ := rows_of_parse parsed
  refine ⟨document, parsed, rows.trans (by decide +kernel), ?_⟩
  rw [← same _ _ document' parsed' (by decide +kernel)]
  exact parsed'

end Parse

end Shorthand
