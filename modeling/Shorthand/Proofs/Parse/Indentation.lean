import Mathlib.Data.List.Basic
import Shorthand.Proofs.Line.Indentation
import Shorthand.Proofs.Parse.Endings
import Shorthand.Proofs.Parse.Refusal

/-!
# Lines at another depth

What happens to a parse when the indentation of one line is changed in its source. The source keeps
all its other lines (`split_reindentLine`), so the parse comes to the changed line with the same
elements open. There the number of open elements is the deepest depth that is taken, and the error
for a line that is too deep gives it as its bound (`indentation_sets_depth`).
-/

namespace Shorthand

open Line (reindented reindent)

namespace LineEndings

/-! ## One line of a source -/

/-- Changes the indentation of the line that starts behind the given number of line endings. The
text is left as it is up to there, and behind the spaces of that line. -/
def reindentFrom (depth : Nat) : LineEndings → Nat → List Char → List Char
  | _, 0, text => reindented depth text
  | _, _ + 1, [] => []
  | any, index + 1, '\n' :: rest => '\n' :: reindentFrom depth any index rest
  | crlf, index + 1, '\r' :: '\n' :: rest => '\r' :: '\n' :: reindentFrom depth crlf index rest
  | endings, index + 1, c :: rest => c :: reindentFrom depth endings (index + 1) rest

/-- A source in which the line of the given number has another indentation. -/
def reindentLine (endings : LineEndings) (number depth : Nat) (source : String) : String :=
  String.ofList (reindentFrom depth endings (number - 1) source.toList)

/-! ## Spaces at the start of a text -/

/-- What a way of cutting must satisfy so that the spaces a text starts with are those that its
first piece starts with. -/
structure KeepsSpaces (pieces : List Char → List (List Char)) : Prop where
  nil : pieces [] = [[]]
  space (rest : List Char) : pieces (' ' :: rest) = Text.consFirst ' ' (pieces rest)
  ne_nil (text : List Char) : pieces text ≠ []
  other (c : Char) (rest : List Char) (h : c ≠ ' ') :
    ∃ first others, pieces (c :: rest) = first :: others ∧ first.head? ≠ some ' '

theorem keepsSpaces_splitOn : KeepsSpaces (Text.splitOn '\n') where
  nil := rfl
  space rest := rfl
  ne_nil := Text.splitOn_ne_nil '\n'
  other c rest h := by
    rw [Text.splitOn]
    by_cases feed : c = '\n'
    · exact ⟨[], _, if_pos feed, by simp⟩
    · obtain ⟨first, others, pieces⟩ := List.exists_cons_of_ne_nil (Text.splitOn_ne_nil '\n' rest)
      exact ⟨c :: first, others, by rw [if_neg feed, pieces]; rfl, by simpa using h⟩

theorem keepsSpaces_splitPairs : KeepsSpaces splitPairs where
  nil := rfl
  space rest := splitPairs_cons fun _ same => absurd same (by decide)
  ne_nil := splitPairs_ne_nil
  other c rest h := by
    unfold splitPairs
    split
    · next behind => exact ⟨[], _, rfl, by simp⟩
    · next c' rest' _ same =>
      obtain ⟨rfl, rfl⟩ := List.cons.inj same
      obtain ⟨first, others, pieces⟩ := List.exists_cons_of_ne_nil (splitPairs_ne_nil rest)
      exact ⟨c :: first, others, by rw [pieces]; rfl, by simpa using h⟩
    · next same => cases same

namespace KeepsSpaces

variable {pieces : List Char → List (List Char)}

theorem dropWhile (h : KeepsSpaces pieces) (text : List Char) :
    pieces (text.dropWhile (· = ' ')) = (pieces text).modifyHead (List.dropWhile (· = ' ')) := by
  induction text with
  | nil => simp [h.nil]
  | cons c rest ih =>
    by_cases space : c = ' '
    · rw [space, h.space, Text.consFirst_eq_modifyHead _ (h.ne_nil rest),
        List.modifyHead_modifyHead, List.dropWhile_cons_of_pos (by simp), ih]
      rfl
    · obtain ⟨first, others, cut, start⟩ := h.other c rest space
      have kept : first.dropWhile (· = ' ') = first :=
        (Line.spaces_of_not_space start 0).2
      rw [List.dropWhile_cons_of_neg (by simpa using space), cut, List.modifyHead_cons, kept]

theorem replicate_append (h : KeepsSpaces pieces) (depth : Nat) (text : List Char) :
    pieces (List.replicate depth ' ' ++ text) =
      (pieces text).modifyHead (List.replicate depth ' ' ++ ·) := by
  induction depth with
  | zero => exact (congrFun List.modifyHead_id (pieces text)).symm
  | succ depth ih =>
    rw [List.replicate_succ, List.cons_append, h.space,
      Text.consFirst_eq_modifyHead _ (h.ne_nil _), ih, List.modifyHead_modifyHead]
    rfl

theorem reindented (h : KeepsSpaces pieces) (depth : Nat) (text : List Char) :
    pieces (Line.reindented depth text) = (pieces text).modifyHead (Line.reindented depth) := by
  rw [Line.reindented, h.replicate_append, h.dropWhile, List.modifyHead_modifyHead]
  rfl

theorem reindentFrom_zero (h : KeepsSpaces pieces) (depth : Nat) (endings : LineEndings)
    (text : List Char) :
    pieces (reindentFrom depth endings 0 text) =
      (pieces text).modify 0 (Line.reindented depth) := by
  rw [reindentFrom, h.reindented, List.modifyHead_eq_modify_zero]

end KeepsSpaces

/-! ## Going to the line -/

theorem modify_consFirst {pieces : List (List Char)} (h : pieces ≠ []) (c : Char) (index : Nat)
    (f : List Char → List Char) :
    (Text.consFirst c pieces).modify (index + 1) f =
      Text.consFirst c (pieces.modify (index + 1) f) := by
  cases pieces with
  | nil => exact absurd rfl h
  | cons first others => rfl

theorem splitOn_reindentFrom (depth index : Nat) (source : List Char) :
    Text.splitOn '\n' (reindentFrom depth any index source) =
      (Text.splitOn '\n' source).modify index (reindented depth) := by
  induction source generalizing index with
  | nil =>
    cases index with
    | zero => exact keepsSpaces_splitOn.reindentFrom_zero depth any _
    | succ index =>
      rw [reindentFrom]
      simp [Text.splitOn]
  | cons c rest ih =>
    cases index with
    | zero => exact keepsSpaces_splitOn.reindentFrom_zero depth any _
    | succ index =>
      by_cases feed : c = '\n'
      · rw [feed, reindentFrom, Text.splitOn, Text.splitOn, if_pos rfl, if_pos rfl, ih,
          List.modify_succ_cons]
      · have step : reindentFrom depth any (index + 1) (c :: rest) =
            c :: reindentFrom depth any (index + 1) rest := by
          rw [reindentFrom]
          · simpa using feed
          · simp
        rw [step, Text.splitOn, Text.splitOn, if_neg feed, if_neg feed, ih,
          modify_consFirst (Text.splitOn_ne_nil '\n' rest)]

theorem head?_reindentFrom (depth index : Nat) (source : List Char) :
    (reindentFrom depth crlf (index + 1) source).head? = source.head? := by
  unfold reindentFrom
  split <;> simp_all

theorem splitPairs_reindentFrom (depth index : Nat) (source : List Char) :
    splitPairs (reindentFrom depth crlf index source) =
      (splitPairs source).modify index (reindented depth) := by
  induction source using splitPairs.induct generalizing index with
  | case1 rest ih =>
    cases index with
    | zero => exact keepsSpaces_splitPairs.reindentFrom_zero depth crlf _
    | succ index =>
      rw [reindentFrom, splitPairs, splitPairs, ih, List.modify_succ_cons]
  | case2 c rest no_pair ih =>
    cases index with
    | zero => exact keepsSpaces_splitPairs.reindentFrom_zero depth crlf _
    | succ index =>
      have step : reindentFrom depth crlf (index + 1) (c :: rest) =
          c :: reindentFrom depth crlf (index + 1) rest := by
        rw [reindentFrom]
        · simp
        · exact fun behind _ same after => no_pair behind same after
      -- the change begins behind a line ending, so no feed comes to stand behind a return here
      have no_pair' : ∀ behind, c = '\r' →
          reindentFrom depth crlf (index + 1) rest ≠ '\n' :: behind := by
        intro behind same after
        have head := head?_reindentFrom depth index rest
        rw [after] at head
        cases rest with
        | nil => cases head
        | cons next rest =>
          cases head
          exact no_pair rest same rfl
      rw [step, splitPairs_cons no_pair', ih,
        splitPairs_cons fun behind same after => no_pair behind same after,
        modify_consFirst (splitPairs_ne_nil rest)]
  | case3 =>
    cases index with
    | zero => exact keepsSpaces_splitPairs.reindentFrom_zero depth crlf _
    | succ index =>
      rw [reindentFrom]
      simp [splitPairs]

/-- A carriage return at the end of a line is no part of its indentation. -/
theorem dropReturn_reindented (depth : Nat) (line : List Char) :
    dropReturn (reindented depth line) = reindented depth (dropReturn line) := by
  by_cases last : line.getLast? = some '\r'
  · obtain ⟨others, rfl⟩ := List.getLast?_eq_some_iff.1 last
    have behind : reindented depth (others ++ ['\r']) = reindented depth others ++ ['\r'] := by
      simp [reindented, List.dropWhile_append]
    rw [dropReturn_concat, behind, dropReturn_concat]
  -- the last character is that of the line, or a space when the line is nothing but spaces
  · have behind : (reindented depth line).getLast? ≠ some '\r' := by
      rw [reindented, List.getLast?_append, Ne, Option.or_eq_some_iff]
      rintro (last' | ⟨-, space⟩)
      · refine last ?_
        rw [← List.takeWhile_append_dropWhile (p := (· = ' ')) (l := line), List.getLast?_append,
          last']
        rfl
      · cases List.eq_of_mem_replicate (List.mem_of_getLast? space)
    rw [dropReturn_of_ne last, dropReturn_of_ne behind]

theorem map_modify {α β : Type} {f : α → α} {f' : β → β} {g : α → β}
    (comm : ∀ a, g (f a) = f' (g a)) (index : Nat) (items : List α) :
    (items.modify index f).map g = (items.map g).modify index f' := by
  induction items generalizing index with
  | nil => simp
  | cons item rest ih =>
    cases index with
    | zero => simp [comm]
    | succ index => simp [ih]

theorem cut_reindentFrom (endings : LineEndings) (depth index : Nat) (source : List Char) :
    endings.cut (reindentFrom depth endings index source) =
      (endings.cut source).modify index (reindented depth) := by
  cases endings with
  | any =>
    rw [cut, splitOn_reindentFrom, map_modify (dropReturn_reindented depth)]
    rfl
  | crlf => exact splitPairs_reindentFrom depth index source

/-- **The lines of the changed source** are those of the source, with the one changed. -/
theorem split_reindentLine (endings : LineEndings) (number depth : Nat) (source : String) :
    endings.split (endings.reindentLine number depth source) =
      (endings.split source).modify (number - 1) (reindent depth) := by
  rw [split, reindentLine, String.toList_ofList, cut_reindentFrom, split]
  apply map_modify
  intro line
  rw [reindent, String.toList_ofList]

end LineEndings

namespace Parse

/-! ## The parse of the changed source -/

theorem split_reindentLine_of_split {endings : LineEndings} {source line : String}
    {first rest : List String} (lines : endings.split source = first ++ line :: rest)
    (depth : Nat) :
    endings.split (endings.reindentLine (1 + first.length) depth source) =
      first ++ reindent depth line :: rest := by
  rw [LineEndings.split_reindentLine, lines, Nat.add_sub_cancel_left]
  exact List.modifyTailIdx_add (List.modifyHead (reindent depth)) 0 first (line :: rest)

/-- A line that is too deep would be taken at every depth up to the bound of the error, and at no
greater one. -/
theorem outcome_reindentLine {options : ParseOptions} {source content : String}
    {number depth max : Nat}
    (failed : (parse options source).outcome =
      .error (.malformedDepth number content depth max)) (depth' : Nat) :
    let edited := options.lineEndings.reindentLine number depth' source
    (depth' ≤ max → ∀ error, (parse options edited).outcome = .error error →
      number < error.line) ∧
    (max < depth' → (parse options edited).outcome =
      .error (.malformedDepth number (reindent depth' content) depth' max)) := by
  intro edited
  obtain ⟨first, line, rest, between, lines, ran, refusal⟩ :=
    refusal_of_run (run_of_parse_error failed)
  cases refusal with
  | tooDeep placed policy deep =>
    have lines' := split_reindentLine_of_split lines depth'
    have placed' := Line.placed?_reindent placed depth'
    constructor
    · intro fits error failed'
      obtain ⟨after, taken⟩ := exists_step_of_le placed' fits
      exact lt_line_of_parse lines' ran taken failed'
    · intro deep'
      exact outcome_parse_of_refusal lines' ran (.tooDeep placed' policy deep')

/-- What the error for a line that is too deep says of the line. -/
theorem content_of_malformedDepth {options : ParseOptions} {source content : String}
    {number depth max : Nat}
    (failed : (parse options source).outcome =
      .error (.malformedDepth number content depth max)) :
    (options.lineEndings.split source)[number - 1]? = some content ∧
      Line.indentation content = depth ∧ max < depth := by
  obtain ⟨first, line, rest, between, lines, ran, refusal⟩ :=
    refusal_of_run (run_of_parse_error failed)
  cases refusal with
  | tooDeep placed policy deep =>
    exact ⟨by simp [lines], Line.indentation_of_placed? placed, deep⟩

/-- **Indentation only sets the depth, and the bound of a depth error is exact.** Spaces in front of
a text that starts with none make it the same line at their number. A parse that fails at a line
that is too deep names that line, its number of leading spaces and a bound below it. With any other
number of leading spaces on that line, the parse gets over it when they are no more than the bound,
and fails at it in the same way, with the same bound, when they are more. -/
theorem indentation_sets_depth :
    (∀ (body : String) (depth : Nat), body.toList.head? ≠ some ' ' →
      Line.classify (Line.indent depth ++ body) = (Line.classify body).atDepth depth) ∧
    ∀ (options : ParseOptions) (source content : String) (number depth max : Nat),
      (parse options source).outcome = .error (.malformedDepth number content depth max) →
        (options.lineEndings.split source)[number - 1]? = some content ∧
        Line.indentation content = depth ∧ max < depth ∧
        ∀ depth',
          let edited := options.lineEndings.reindentLine number depth' source
          (depth' ≤ max → ∀ error, (parse options edited).outcome = .error error →
            number < error.line) ∧
          (max < depth' → (parse options edited).outcome =
            .error (.malformedDepth number (reindent depth' content) depth' max)) := by
  constructor
  · intro body depth start
    exact Line.classify_indent start depth
  · intro options source content number depth max failed
    obtain ⟨named, spaces, deep⟩ := content_of_malformedDepth failed
    exact ⟨named, spaces, deep, outcome_reindentLine failed⟩

/-- A line inside two open elements. Two spaces bring it below the inner one, and the parse goes on
to a line that is too deep for it; nine fail as five do. -/
theorem indentation_sets_depth_inside :
    let options : ParseOptions := ⟨.skip, .reject, .crlf⟩
    let source := "ul\r\n li one\nx\r\n li\r\n     b Hi\r\n      i"
    Line.classify "     b Hi" = .nested 5 ⟨"b", "", [""], [], "Hi"⟩ ∧
      (parse options source).outcome = .error (.malformedDepth 4 "     b Hi" 5 2) ∧
      LineEndings.crlf.reindentLine 4 2 source =
        "ul\r\n li one\nx\r\n li\r\n  b Hi\r\n      i" ∧
      (parse options (LineEndings.crlf.reindentLine 4 2 source)).outcome =
        .error (.malformedDepth 5 "      i" 6 3) ∧ 4 < 5 ∧
      (parse options (LineEndings.crlf.reindentLine 4 9 source)).outcome =
        .error (.malformedDepth 4 "         b Hi" 9 2) := by
  intro options source
  obtain ⟨indented, edits⟩ := indentation_sets_depth
  have kind : Line.classify "b Hi" = .root ⟨"b", "", [""], [], "Hi"⟩ := by decide +kernel
  have failed : (parse options source).outcome = .error (.malformedDepth 4 "     b Hi" 5 2) :=
    Traced.error?_eq_some.1 (by decide +kernel)
  have later : (parse options (LineEndings.crlf.reindentLine 4 2 source)).outcome =
      .error (.malformedDepth 5 "      i" 6 3) :=
    Traced.error?_eq_some.1 (by decide +kernel)
  obtain ⟨-, -, -, at_depth⟩ := edits options source "     b Hi" 4 5 2 failed
  refine ⟨?_, failed, by decide +kernel, later, ?_, ?_⟩
  · have nested := indented "b Hi" 5 (by decide)
    rw [kind] at nested
    exact nested
  · exact (at_depth 2).1 (Nat.le_refl 2) _ later
  · exact (at_depth 9).2 (by decide)

end Parse

end Shorthand
