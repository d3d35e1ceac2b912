import Shorthand.Proofs.Line.Record
import Shorthand.Proofs.Parse.Outline

/-!
# Parsing undoes writing

A forest of records is written with one line for each record in preorder, indented by its depth.
Parsing the text gives the forest of their elements (`parse_write`), whatever the policies are:
along a preorder walk no depth is more than one greater than the one before it, so nothing is
clamped, dropped or refused (`clampDepths_walk`, `run_ok_of_steady`), and the outline of what is
parsed is the walk itself.
-/

namespace Shorthand

open Line (Fields)
open LineEndings (Separates)

/-! ## Forests of records -/

/-- A record with the trees below it. -/
structure RecordTree where
  record : Record
  children : List RecordTree

namespace RecordTree

mutual

/-- The records of a tree in preorder, each with its depth. -/
def walkAt (depth : Nat) : RecordTree → List (Nat × Record)
  | ⟨record, children⟩ => (depth, record) :: forestWalkAt (depth + 1) children

/-- The records of trees that stand next to each other at the given depth. -/
def forestWalkAt (depth : Nat) : List RecordTree → List (Nat × Record)
  | [] => []
  | tree :: rest => walkAt depth tree ++ forestWalkAt depth rest

end

mutual

/-- The element of a tree: that of its record, with the elements of the trees below it as
children. -/
def element : RecordTree → Element
  | ⟨record, children⟩ => { record.element with children := elements children }

/-- The elements of trees that stand next to each other. -/
def elements : List RecordTree → List Element
  | [] => []
  | tree :: rest => element tree :: elements rest

end

/-- A forest as it is written: its lines in preorder with a separator between them. -/
def write (separator : String) (forest : List RecordTree) : String :=
  separator.intercalate ((forestWalkAt 0 forest).map fun entry => entry.2.line entry.1)

end RecordTree

namespace Parse

open RecordTree (walkAt forestWalkAt elements write)

/-- The line of a walk as a shorthand line. -/
def walkLine (entry : Nat × Record) : Nat × Fields := (entry.1, entry.2.fields)

/-! ## Depths along a walk -/

/-- A walk that starts where it may start is left as it is, and what follows it may stand at least
as deep as the walk started. -/
def Climbs (depth : Nat) (walk : List (Nat × Fields)) : Prop :=
  ∀ limit, depth ≤ limit → ∃ limit', depth ≤ limit' ∧
    ∀ rest, clampDepths limit (walk ++ rest) = walk ++ clampDepths limit' rest

theorem Climbs.nil (depth : Nat) : Climbs depth [] := by
  intro limit fits
  exact ⟨limit, fits, fun _ => rfl⟩

theorem Climbs.cons {depth : Nat} {walk : List (Nat × Fields)} (below : Climbs (depth + 1) walk)
    (fields : Fields) : Climbs depth ((depth, fields) :: walk) := by
  intro limit fits
  obtain ⟨limit', fits', same⟩ := below (depth + 1) (Nat.le_refl _)
  refine ⟨limit', by omega, ?_⟩
  intro rest
  rw [List.cons_append, clampDepths, Nat.min_eq_left fits, same, List.cons_append]

theorem Climbs.append {depth : Nat} {first second : List (Nat × Fields)} (h : Climbs depth first)
    (h' : Climbs depth second) : Climbs depth (first ++ second) := by
  intro limit fits
  obtain ⟨between, fits', same⟩ := h limit fits
  obtain ⟨limit', fits'', same'⟩ := h' between fits'
  refine ⟨limit', fits'', ?_⟩
  intro rest
  rw [List.append_assoc, same, same', List.append_assoc]

mutual

theorem climbs_walkAt (depth : Nat) :
    (tree : RecordTree) → Climbs depth ((walkAt depth tree).map walkLine)
  | ⟨record, children⟩ => by
    rw [walkAt, List.map_cons]
    exact (climbs_forestWalkAt (depth + 1) children).cons record.fields

theorem climbs_forestWalkAt (depth : Nat) :
    (forest : List RecordTree) → Climbs depth ((forestWalkAt depth forest).map walkLine)
  | [] => Climbs.nil depth
  | tree :: rest => by
    rw [forestWalkAt, List.map_append]
    exact (climbs_walkAt depth tree).append (climbs_forestWalkAt depth rest)

end

/-- No line of a written forest is too deep. -/
theorem clampDepths_walk (forest : List RecordTree) :
    clampDepths 0 ((forestWalkAt 0 forest).map walkLine) =
      (forestWalkAt 0 forest).map walkLine := by
  obtain ⟨_, -, same⟩ := climbs_forestWalkAt 0 forest 0 (Nat.le_refl 0)
  have := same []
  rwa [List.append_nil, clampDepths, List.append_nil] at this

theorem le_of_clampDepths {limit depth : Nat} {fields : Fields} {rest : List (Nat × Fields)}
    (steady : clampDepths limit ((depth, fields) :: rest) = (depth, fields) :: rest) :
    depth ≤ limit ∧ clampDepths (depth + 1) rest = rest := by
  rw [clampDepths] at steady
  obtain ⟨first, others⟩ := List.cons.inj steady
  have fits : min depth limit = depth := congrArg Prod.fst first
  rw [fits] at others
  exact ⟨by omega, others⟩

/-! ## Parsing lines that are not too deep -/

theorem step_of_fits {options : ParseOptions} {number : Nat} {line : String} {depth : Nat}
    {fields : Fields} {progress : Progress}
    (placed : (Line.classify line).placed? = some (depth, fields))
    (fits : depth ≤ progress.builder.height) :
    (step options number line progress).outcome = .ok (progress.settle depth fields.element) := by
  have settled (depth : Nat) (fields : Fields) (fits : depth ≤ progress.builder.height) :
      (elementLine options number line depth fields.element progress).outcome =
        .ok (progress.settle depth fields.element) := by
    rw [elementLine_eq, placement_of_le fits]
    rfl
  unfold step
  cases kind : Line.classify line with
  | root fields' =>
    rw [kind] at placed
    cases placed
    exact Traced.outcome_bind_eq_ok.2 ⟨(), rfl, settled 0 fields fits⟩
  | nested depth' fields' =>
    rw [kind] at placed
    cases placed
    exact Traced.outcome_bind_eq_ok.2 ⟨(), rfl, settled depth fields fits⟩
  | unrecognized =>
    rw [kind] at placed
    cases placed

/-- Shorthand lines of which none is too deep are all taken, whatever the options are. -/
theorem run_ok_of_steady (options : ParseOptions) (number : Nat) (progress : Progress)
    {lines : List String} {placed : List (Nat × Fields)}
    (kinds : lines.map (fun line => (Line.classify line).placed?) = placed.map some)
    (steady : clampDepths progress.builder.height placed = placed) :
    ∃ after, (run options number progress lines).outcome = .ok after := by
  induction lines generalizing number placed progress with
  | nil => exact ⟨progress, rfl⟩
  | cons line rest ih =>
    cases placed with
    | nil => cases kinds
    | cons first placed =>
      obtain ⟨depth, fields⟩ := first
      rw [List.map_cons, List.map_cons] at kinds
      obtain ⟨kind, kinds⟩ := List.cons.inj kinds
      obtain ⟨fits, steady⟩ := le_of_clampDepths steady
      have height : (progress.settle depth fields.element).builder.height = depth + 1 :=
        ForestBuilder.height_settle fits _
      rw [← height] at steady
      obtain ⟨after, others⟩ := ih (number + 1) _ kinds steady
      exact ⟨after, Traced.outcome_bind_eq_ok.2 ⟨_, step_of_fits kind fits, others⟩⟩

theorem shorthandLines_of_kinds {lines : List String} {placed : List (Nat × Fields)}
    (kinds : lines.map (fun line => (Line.classify line).placed?) = placed.map some) :
    shorthandLines lines = placed := by
  have all := congrArg (List.filterMap id) kinds
  rw [List.filterMap_map, List.filterMap_map] at all
  exact all.trans List.filterMap_some

/-- Such lines are parsed to the forest that has them as its outline. -/
theorem parse_of_steady {options : ParseOptions} {source : String} {placed : List (Nat × Fields)}
    (kinds : (options.lineEndings.split source).map (fun line => (Line.classify line).placed?) =
      placed.map some)
    (steady : clampDepths 0 placed = placed) :
    ∃ document, (parse options source).outcome = .ok document ∧
      Element.outlineAt 0 document.roots = placed.map lineEntry := by
  obtain ⟨after, ran⟩ := run_ok_of_steady options 1 .start kinds steady
  have parsed : (parse options source).outcome = .ok ⟨after.builder.forest⟩ :=
    Traced.outcome_bind_eq_ok.2 ⟨after, ran, rfl⟩
  refine ⟨_, parsed, ?_⟩
  have kept : placed.dropWhile (·.1 ≠ 0) = placed := by
    cases placed with
    | nil => rfl
    | cons first rest =>
      obtain ⟨depth, fields⟩ := first
      have root : depth = 0 := Nat.le_zero.1 (le_of_clampDepths steady).1
      rw [List.dropWhile_cons_of_neg (by simp [root])]
  rw [roots_of_parse parsed, ForestBuilder.outlineAt_forest, outline_foldl_of_closed rfl,
    shorthandLines_of_kinds kinds, kept, steady]
  rfl

/-! ## Parsing what is written -/

mutual

theorem outlineAt_element (depth : Nat) : (tree : RecordTree) →
    Element.outlineAt depth [tree.element] = ((walkAt depth tree).map walkLine).map lineEntry
  | ⟨record, children⟩ => by
    rw [RecordTree.element, walkAt, Element.outlineAt_cons, Element.outlineAt_nil,
      List.append_nil, List.map_cons, List.map_cons, ← outlineAt_elements (depth + 1) children]
    rfl

theorem outlineAt_elements (depth : Nat) : (forest : List RecordTree) →
    Element.outlineAt depth (elements forest) =
      ((forestWalkAt depth forest).map walkLine).map lineEntry
  | [] => rfl
  | tree :: rest => by
    have split : elements (tree :: rest) = [tree.element] ++ elements rest := by
      rw [elements]
      rfl
    rw [split, Element.outlineAt_append, forestWalkAt, List.map_append, List.map_append,
      outlineAt_element depth tree, outlineAt_elements depth rest]

end

/-- A text without lines is one blank line. -/
theorem parse_empty (options : ParseOptions) :
    (parse options "").outcome = .ok ⟨[]⟩ := by
  have lines : options.lineEndings.split "" = [""] :=
    LineEndings.split_of_oneLine _ (by decide)
  have blank : Line.classify "" = .unrecognized := by decide
  have passed : step options 1 "" .start = .ok .start := by
    rw [step, blank]
    exact if_pos Text.isBlank_empty
  simp only [parse, lines, run, passed, Traced.ok_bind]
  rfl

/-- **Parsing undoes writing**: the text of a forest of well-formed records is parsed to the forest
of their elements under any policies. -/
theorem parse_write (options : ParseOptions) {separator : String}
    (separates : Separates separator options.lineEndings) (forest : List RecordTree)
    (wellFormed : ∀ entry ∈ forestWalkAt 0 forest, entry.2.WellFormed) :
    (parse options (write separator forest)).outcome = .ok ⟨elements forest⟩ := by
  by_cases missing : forestWalkAt 0 forest = []
  · -- without a record there is no line to be cut off again
    cases forest with
    | nil => exact parse_empty options
    | cons tree rest =>
      obtain ⟨record, children⟩ := tree
      rw [forestWalkAt, walkAt] at missing
      cases missing
  · have lines : options.lineEndings.split (write separator forest) =
        (forestWalkAt 0 forest).map fun entry => entry.2.line entry.1 := by
      refine LineEndings.split_intercalate separates (by simpa using missing) ?_
      intro line member
      obtain ⟨entry, entry_member, rfl⟩ := List.mem_map.1 member
      exact (wellFormed entry entry_member).oneLine_line entry.1
    have kinds : (options.lineEndings.split (write separator forest)).map
        (fun line => (Line.classify line).placed?) =
          ((forestWalkAt 0 forest).map walkLine).map some := by
      rw [lines, List.map_map, List.map_map]
      refine List.map_congr_left ?_
      intro entry member
      exact Record.placed?_line (wellFormed entry member) entry.1
    obtain ⟨document, parsed, outline⟩ := parse_of_steady kinds (clampDepths_walk forest)
    rw [← outlineAt_elements] at outline
    rw [parsed, ← Element.outlineAt_injective outline]

/-- A value that ends with an equals sign in front of another pair, a value that ends with a space,
and a text with quotes; with both policies rejecting. -/
theorem parse_write_nested :
    ∃ forest : List RecordTree, (∀ entry ∈ forestWalkAt 0 forest, entry.2.WellFormed) ∧
      write "\r\n" forest =
        "div#main.a.b k=\"v=\" x=\"y  z \" say \"hi\"\r\n p  in\r\n  b\r\n br\r\np" ∧
      (parse .strict
        "div#main.a.b k=\"v=\" x=\"y  z \" say \"hi\"\r\n p  in\r\n  b\r\n br\r\np").outcome =
          .ok ⟨elements forest⟩ := by
  let forest : List RecordTree :=
    [⟨⟨"div", "main", ["a", "b"], [("k", "v="), ("x", "y  z ")], "say \"hi\""⟩,
      [⟨⟨"p", "", [], [], " in"⟩, [⟨⟨"b", "", [], [], ""⟩, []⟩]⟩, ⟨⟨"br", "", [], [], ""⟩, []⟩]⟩,
      ⟨⟨"p", "", [], [], ""⟩, []⟩]
  have wellFormed : ∀ entry ∈ forestWalkAt 0 forest, entry.2.WellFormed := by
    decide +kernel
  have written : write "\r\n" forest =
      "div#main.a.b k=\"v=\" x=\"y  z \" say \"hi\"\r\n p  in\r\n  b\r\n br\r\np" := by
    decide +kernel
  refine ⟨forest, wellFormed, written, ?_⟩
  rw [← written]
  exact parse_write .strict (.inr rfl) forest wellFormed

end Parse

end Shorthand
