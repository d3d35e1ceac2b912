import Mathlib.Data.List.Basic
import Shorthand.Parse.Basic
import Shorthand.Proofs.Line.Endings

/-!
# Two ways to end a line

Both ways of cutting lines leave the same lines of a source exactly when a line feed never stands
without a carriage return in front of it and the source does not end in a carriage return
(`cut_any_eq_crlf_iff`). Every source is its `crlf` lines with pairs between them; when these
lines hold no line feed, `any` cuts the source at the same places, and the two differ at most in
the last line. A parse sees no more of a source than its lines.
-/

namespace Shorthand

namespace LineEndings

/-- The two characters that together end a line. -/
def returnFeed : List Char := ['\r', '\n']

/-- Whether every line feed of a text has a carriage return in front of it. -/
def FeedsFollowReturns (text : List Char) : Prop :=
  ∀ before after, text = before ++ '\n' :: after → before.getLast? = some '\r'

/-- Puts a carriage return in front of every line feed. -/
def withReturns (source : String) : String :=
  String.ofList (source.toList.flatMap fun c => if c = '\n' then returnFeed else [c])

/-! ## Carriage returns at the end of a line -/

theorem dropReturn_of_ne {line : List Char} (other : line.getLast? ≠ some '\r') :
    dropReturn line = line := if_neg other

theorem dropReturn_concat (line : List Char) : dropReturn (line ++ ['\r']) = line := by
  rw [dropReturn, if_pos List.getLast?_concat, List.dropLast_concat]

theorem dropReturn_eq_self_iff {line : List Char} :
    dropReturn line = line ↔ line.getLast? ≠ some '\r' := by
  refine ⟨?_, dropReturn_of_ne⟩
  intro same last
  obtain ⟨others, rfl⟩ := List.getLast?_eq_some_iff.1 last
  rw [dropReturn_concat] at same
  exact List.cons_ne_nil '\r' [] (List.self_eq_append_right.1 same)

/-! ## Sources with pairs between their lines -/

theorem intercalate_returnFeed_cons (line : List Char) {lines : List (List Char)}
    (some_line : lines ≠ []) :
    returnFeed.intercalate (line :: lines) =
      line ++ '\r' :: '\n' :: returnFeed.intercalate lines := by
  rw [List.intercalate_cons_of_ne_nil some_line, List.append_assoc]
  rfl

theorem intercalate_splitPairs (source : List Char) :
    returnFeed.intercalate (splitPairs source) = source := by
  induction source using splitPairs.induct with
  | case1 rest ih =>
    rw [splitPairs, intercalate_returnFeed_cons _ (splitPairs_ne_nil rest), ih, List.nil_append]
  | case2 c rest no_pair ih =>
    rw [splitPairs_cons fun behind same after => no_pair behind same after,
      Text.intercalate_consFirst _ _ (splitPairs_ne_nil rest), ih]
  | case3 => rfl

/-- Cut at line feeds, the lines come out again. Only the last of them may lose a carriage return,
as it has no ending of its own that the character could stand in. -/
theorem cut_any_intercalate {others : List (List Char)} {last : List Char}
    (no_feed : ∀ line ∈ others ++ [last], '\n' ∉ line) :
    any.cut (returnFeed.intercalate (others ++ [last])) = others ++ [dropReturn last] := by
  induction others with
  | nil =>
    rw [List.nil_append, List.intercalate_singleton, cut,
      Text.splitOn_of_not_mem (no_feed last (by simp)), List.map_singleton, List.nil_append]
  | cons line others ih =>
    have first : '\n' ∉ line ++ ['\r'] := by simp [no_feed line (by simp)]
    have rest := ih fun other member => no_feed other (List.mem_cons_of_mem line member)
    rw [List.cons_append, intercalate_returnFeed_cons line (by simp), ← List.singleton_append,
      ← List.append_assoc, cut, Text.splitOn_append_cons, Text.splitOn_of_not_mem first,
      List.map_append, List.map_singleton, dropReturn_concat]
    exact congrArg (line :: ·) rest

theorem getLast?_intercalate (others : List (List Char)) (last : List Char) :
    (returnFeed.intercalate (others ++ [last])).getLast? = some '\r' ↔
      last.getLast? = some '\r' := by
  induction others with
  | nil => rw [List.nil_append, List.intercalate_singleton]
  | cons line others ih =>
    rw [List.cons_append, intercalate_returnFeed_cons line (by simp), ← ih]
    generalize returnFeed.intercalate (others ++ [last]) = rest
    cases rest with
    | nil => simp
    | cons c rest => simp [List.getLast?_append, List.getLast?_cons_cons]

/-! ## Line feeds behind carriage returns -/

theorem feedsFollowReturns_pair {rest : List Char} :
    FeedsFollowReturns ('\r' :: '\n' :: rest) ↔ FeedsFollowReturns rest := by
  constructor
  · intro h before after split
    have last := h ('\r' :: '\n' :: before) after (by rw [split]; rfl)
    cases before with
    | nil => simp at last
    | cons c before => rwa [List.getLast?_cons_cons, List.getLast?_cons_cons] at last
  · intro h before after split
    match before with
    | [] => simp at split
    | [c] =>
      rw [← (List.cons.inj split).1]
      rfl
    | c :: c' :: before =>
      simp only [List.cons_append, List.cons.injEq] at split
      have last := h before after split.2.2
      rw [List.getLast?_cons, List.getLast?_cons, last]
      rfl

theorem feedsFollowReturns_cons {c : Char} {rest : List Char}
    (no_pair : ∀ behind, c = '\r' → rest ≠ '\n' :: behind) :
    FeedsFollowReturns (c :: rest) ↔ c ≠ '\n' ∧ FeedsFollowReturns rest := by
  constructor
  · intro h
    refine ⟨?_, ?_⟩
    · rintro rfl
      cases h [] rest rfl
    · intro before after split
      have last := h (c :: before) after (by rw [split]; rfl)
      cases before with
      | nil => exact absurd split (no_pair after (Option.some.inj last))
      | cons c' before => rwa [List.getLast?_cons_cons] at last
  · rintro ⟨other, h⟩ before after split
    cases before with
    | nil => exact absurd (List.cons.inj split).1 other
    | cons c' before =>
      rw [List.getLast?_cons, h before after (List.cons.inj split).2]
      rfl

theorem forall_not_mem_consFirst {c feed : Char} {pieces : List (List Char)} (h : pieces ≠ []) :
    (∀ piece ∈ Text.consFirst c pieces, feed ∉ piece) ↔
      c ≠ feed ∧ ∀ piece ∈ pieces, feed ∉ piece := by
  cases pieces with
  | nil => exact absurd rfl h
  | cons piece pieces =>
    rw [Text.consFirst, List.forall_mem_cons, List.forall_mem_cons, List.mem_cons, not_or,
      and_assoc, ← ne_eq, ne_comm]

/-- The pairs of a source take all of its line feeds, unless one stands alone. -/
theorem feedsFollowReturns_iff {source : List Char} :
    FeedsFollowReturns source ↔ ∀ line ∈ splitPairs source, '\n' ∉ line := by
  induction source using splitPairs.induct with
  | case1 rest ih =>
    rw [feedsFollowReturns_pair, ih, splitPairs, List.forall_mem_cons]
    exact (and_iff_right List.not_mem_nil).symm
  | case2 c rest no_pair ih =>
    have no_pair' : ∀ behind, c = '\r' → rest ≠ '\n' :: behind := fun behind same after =>
      no_pair behind same after
    rw [feedsFollowReturns_cons no_pair', ih, splitPairs_cons no_pair',
      forall_not_mem_consFirst (splitPairs_ne_nil rest)]
  | case3 => simp [FeedsFollowReturns, splitPairs]

instance (text : List Char) : Decidable (FeedsFollowReturns text) :=
  decidable_of_iff' _ feedsFollowReturns_iff

/-- The `crlf` lines of a source. -/
theorem exists_lines (source : List Char) : ∃ others last, splitPairs source = others ++ [last] ∧
    returnFeed.intercalate (others ++ [last]) = source := by
  rcases List.eq_nil_or_concat' (splitPairs source) with nothing | ⟨others, last, lines⟩
  · exact absurd nothing (splitPairs_ne_nil source)
  · exact ⟨others, last, lines, by rw [← lines, intercalate_splitPairs]⟩

theorem cut_any_eq_crlf_iff {source : List Char} :
    any.cut source = crlf.cut source ↔
      FeedsFollowReturns source ∧ source.getLast? ≠ some '\r' := by
  obtain ⟨others, last, lines, joined⟩ := exists_lines source
  have crlf_lines : crlf.cut source = others ++ [last] := lines
  have last_char := getLast?_intercalate others last
  rw [joined] at last_char
  rw [feedsFollowReturns_iff, lines, crlf_lines, Ne, last_char]
  constructor
  · intro same
    have no_feed : ∀ line ∈ others ++ [last], '\n' ∉ line := by
      intro line member
      rw [← same] at member
      exact not_mem_of_mem_cut_any member
    have any_lines := cut_any_intercalate no_feed
    rw [joined, same] at any_lines
    refine ⟨no_feed, dropReturn_eq_self_iff.1 ?_⟩
    simpa using (List.append_cancel_left any_lines).symm
  · rintro ⟨no_feed, other⟩
    have any_lines := cut_any_intercalate no_feed
    rwa [joined, dropReturn_of_ne other] at any_lines

/-! ## Line feeds without carriage returns -/

theorem flatMap_returnFeed (source : List Char) :
    (source.flatMap fun c => if c = '\n' then returnFeed else [c]) =
      returnFeed.intercalate (Text.splitOn '\n' source) := by
  induction source with
  | nil => rfl
  | cons c rest ih =>
    rw [List.flatMap_cons, ih, Text.splitOn]
    by_cases feed : c = '\n'
    · rw [if_pos feed, if_pos feed, intercalate_returnFeed_cons _ (Text.splitOn_ne_nil _ _)]
      rfl
    · rw [if_neg feed, if_neg feed, Text.intercalate_consFirst _ _ (Text.splitOn_ne_nil _ _)]
      rfl

/-- Where no pair of the two characters comes about, no line ends in a carriage return. -/
theorem getLast?_of_no_pair {lines : List (List Char)}
    (no_pair : ¬ returnFeed <:+: ['\n'].intercalate lines)
    (other : (['\n'].intercalate lines).getLast? ≠ some '\r') :
    ∀ line ∈ lines, line.getLast? ≠ some '\r' := by
  induction lines with
  | nil => simp
  | cons line rest ih =>
    by_cases only : rest = []
    · rw [only, List.intercalate_singleton] at other
      simpa [only] using other
    · rw [List.intercalate_cons_of_ne_nil only] at no_pair other
      intro next member
      rcases List.mem_cons.1 member with rfl | member
      · intro last
        obtain ⟨front, rfl⟩ := List.getLast?_eq_some_iff.1 last
        exact no_pair ⟨front, ['\n'].intercalate rest, by simp [returnFeed]⟩
      · refine ih ?_ ?_ next member
        · exact fun inside => no_pair (inside.trans (List.suffix_append _ _).isInfix)
        · intro last
          rw [List.getLast?_append, last] at other
          exact other rfl

/-- Pairs in the place of line feeds leave the lines as they are. -/
theorem cut_any_withReturns {source : String} (no_pair : ¬ returnFeed <:+: source.toList)
    (other : source.toList.getLast? ≠ some '\r') :
    any.cut (withReturns source).toList = any.cut source.toList := by
  rw [← Text.intercalate_splitOn '\n' source.toList] at no_pair other
  have kept := getLast?_of_no_pair no_pair other
  have no_feed : ∀ line ∈ Text.splitOn '\n' source.toList, '\n' ∉ line := fun line member =>
    Text.not_mem_of_mem_splitOn member
  have cut_source : any.cut source.toList = Text.splitOn '\n' source.toList :=
    (List.map_congr_left fun line member => dropReturn_of_ne (kept line member)).trans
      (List.map_id _)
  rw [cut_source, withReturns, String.toList_ofList, flatMap_returnFeed]
  rcases List.eq_nil_or_concat' (Text.splitOn '\n' source.toList) with
    nothing | ⟨lines, last, pieces⟩
  · exact absurd nothing (Text.splitOn_ne_nil _ _)
  · rw [pieces] at kept no_feed ⊢
    rw [cut_any_intercalate no_feed, dropReturn_of_ne (kept last (by simp))]

end LineEndings

namespace Parse

open LineEndings (FeedsFollowReturns returnFeed withReturns)

/-- The way to cut lines is of no use to a parse once the lines are cut. -/
theorem run_lineEndings (unrecognizedLines : LinePolicy) (depth : DepthPolicy)
    (endings endings' : LineEndings) (number : Nat) (progress : Progress) (lines : List String) :
    run ⟨unrecognizedLines, depth, endings⟩ number progress lines =
      run ⟨unrecognizedLines, depth, endings'⟩ number progress lines := by
  induction lines generalizing number progress with
  | nil => rfl
  | cons line rest ih =>
    rw [run, run]
    congr 1
    funext after
    exact ih (number + 1) after

/-- **When the two ways agree.** They cut a source into the same lines exactly when every line feed
stands behind a carriage return and the source does not end in a carriage return; then parses with
the same policies agree as well, in their events and in what comes out. And where no carriage
return is followed by a line feed or by the end, line feeds can be turned into pairs unnoticed. -/
theorem endings_agree (source : String) :
    (LineEndings.any.split source = LineEndings.crlf.split source ↔
      FeedsFollowReturns source.toList ∧ source.toList.getLast? ≠ some '\r') ∧
    (FeedsFollowReturns source.toList → source.toList.getLast? ≠ some '\r' →
      ∀ unrecognizedLines depth, parse ⟨unrecognizedLines, depth, .any⟩ source =
        parse ⟨unrecognizedLines, depth, .crlf⟩ source) ∧
    (¬ returnFeed <:+: source.toList → source.toList.getLast? ≠ some '\r' →
      ∀ options : ParseOptions, options.lineEndings = .any →
        parse options (withReturns source) = parse options source) := by
  have same_lines : LineEndings.any.split source = LineEndings.crlf.split source ↔
      FeedsFollowReturns source.toList ∧ source.toList.getLast? ≠ some '\r' := by
    rw [← LineEndings.cut_any_eq_crlf_iff]
    exact List.map_inj_right fun _ _ => String.ofList_inj.1
  refine ⟨same_lines, ?_, ?_⟩
  · intro feeds other unrecognizedLines depth
    unfold parse
    rw [same_lines.2 ⟨feeds, other⟩, run_lineEndings unrecognizedLines depth .any .crlf]
  · intro no_pair other options any
    have lines : LineEndings.any.split (withReturns source) = LineEndings.any.split source :=
      congrArg (List.map String.ofList) (LineEndings.cut_any_withReturns no_pair other)
    unfold parse
    rw [any, lines]

/-- Carriage returns that end no line: one inside a line, and one that is doubled. -/
theorem endings_agree_with_lone_returns :
    ∃ source unpaired : String,
      source = "ul\r\n li a\rb\r\r\n\r\nx" ∧ FeedsFollowReturns source.toList ∧
      LineEndings.crlf.split source = ["ul", " li a\rb\r", "", "x"] ∧
      (parse .strict source).outcome = .error (.unrecognizedLine 4 "x") ∧
      (parse ⟨.reject, .reject, .crlf⟩ source).outcome = .error (.unrecognizedLine 4 "x") ∧
      unpaired = "ul\n li a\rb\n\nx" ∧ ¬ returnFeed <:+: unpaired.toList ∧
      withReturns unpaired = "ul\r\n li a\rb\r\n\r\nx" ∧
      (parse .strict (withReturns unpaired)).outcome = .error (.unrecognizedLine 4 "x") := by
  obtain ⟨lines, parses, -⟩ := endings_agree "ul\r\n li a\rb\r\r\n\r\nx"
  obtain ⟨-, -, replaced⟩ := endings_agree "ul\n li a\rb\n\nx"
  have feeds : FeedsFollowReturns "ul\r\n li a\rb\r\r\n\r\nx".toList := by decide +kernel
  have no_pair : ¬ returnFeed <:+: "ul\n li a\rb\n\nx".toList := by decide +kernel
  have cut : LineEndings.any.split "ul\r\n li a\rb\r\r\n\r\nx" =
      ["ul", " li a\rb\r", "", "x"] := by decide +kernel
  have refused : (parse .strict "ul\r\n li a\rb\r\r\n\r\nx").outcome =
      .error (.unrecognizedLine 4 "x") := Traced.error?_eq_some.1 (by decide +kernel)
  have refused' : (parse .strict "ul\n li a\rb\n\nx").outcome =
      .error (.unrecognizedLine 4 "x") := Traced.error?_eq_some.1 (by decide +kernel)
  refine ⟨_, _, rfl, feeds, ?_, refused, ?_, rfl, no_pair, by decide +kernel, ?_⟩
  · rw [← lines.2 ⟨feeds, by decide +kernel⟩, cut]
  · rw [← parses feeds (by decide +kernel) .reject .reject]
    exact refused
  · rw [replaced no_pair (by decide +kernel) .strict rfl, refused']

end Parse

end Shorthand
