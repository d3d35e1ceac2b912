import Shorthand.Line.Endings

/-!
# Lines put together

Cutting is undone by putting terminators between lines. The terminator of a way to cut ends a line
wherever it stands, whatever is in front of it or behind it (`split_append`): a carriage return in
front of a terminator, or a line feed behind one, is never taken for a part of it. With `any` the
pair of carriage return and line feed ends a line as well, so lines that hold neither of the two
characters are cut apart again whichever of the two stands between them (`split_intercalate`).
-/

namespace Shorthand.LineEndings

/-- The shortest text that ends a line. -/
def terminator : LineEndings → String
  | any => "\n"
  | crlf => "\r\n"

/-! ## Cutting at a terminator -/

theorem consFirst_append (c : Char) {pieces : List (List Char)} (h : pieces ≠ [])
    (others : List (List Char)) :
    Text.consFirst c (pieces ++ others) = Text.consFirst c pieces ++ others := by
  cases pieces with
  | nil => exact absurd rfl h
  | cons piece pieces => rfl

theorem splitPairs_cons {c : Char} {rest : List Char}
    (no_pair : ∀ behind, c = '\r' → rest ≠ '\n' :: behind) :
    splitPairs (c :: rest) = Text.consFirst c (splitPairs rest) := by
  rw [splitPairs]
  intro behind same after
  exact no_pair behind same after

theorem splitPairs_append (first rest : List Char) :
    splitPairs (first ++ '\r' :: '\n' :: rest) = splitPairs first ++ splitPairs rest := by
  induction first using splitPairs.induct with
  | case1 more ih =>
    rw [List.cons_append, List.cons_append, splitPairs, splitPairs, ih, List.cons_append]
  | case2 c more no_pair ih =>
    -- a carriage return at the end of the first text is not followed by a line feed
    have no_pair' : ∀ behind, c = '\r' → more ++ '\r' :: '\n' :: rest ≠ '\n' :: behind := by
      intro behind same after
      cases more with
      | nil => simp at after
      | cons next more =>
        obtain ⟨rfl, -⟩ := List.cons.inj after
        exact no_pair more same rfl
    rw [List.cons_append, splitPairs_cons no_pair', ih,
      splitPairs_cons fun behind same after => no_pair behind same after,
      consFirst_append c (splitPairs_ne_nil more)]
  | case3 => rfl

/-- **A terminator ends a line**: what stands in front of it and what stands behind it are cut into
lines on their own. -/
theorem split_append (endings : LineEndings) (first rest : String) :
    endings.split (first ++ endings.terminator ++ rest) =
      endings.split first ++ endings.split rest := by
  have cut : endings.cut ((first ++ endings.terminator ++ rest).toList) =
      endings.cut first.toList ++ endings.cut rest.toList := by
    simp only [String.toList_append, List.append_assoc]
    cases endings with
    | any =>
      show (Text.splitOn '\n' (first.toList ++ '\n' :: rest.toList)).map dropReturn = _
      rw [Text.splitOn_append_cons, List.map_append]
      rfl
    | crlf => exact splitPairs_append first.toList rest.toList
  rw [split, cut, List.map_append]
  rfl

theorem not_mem_of_mem_cut_any {source line : List Char} (h : line ∈ any.cut source) :
    '\n' ∉ line := by
  obtain ⟨piece, member, rfl⟩ := List.mem_map.1 h
  have no_feed := Text.not_mem_of_mem_splitOn member
  unfold dropReturn
  split
  · exact fun feed => no_feed (List.dropLast_subset piece feed)
  · exact no_feed

/-! ## Joining lines -/

-- What holds of all characters of a text is decided along the text. Where the characters are known
-- to be finitely many, all of them would be tried.
instance (priority := high) {p : Char → Prop} [DecidablePred p] (text : List Char) :
    Decidable (∀ c ∈ text, p c) := List.decidableBAll p text

/-- A text without characters that end a line. -/
def OneLine (text : String) : Prop := ∀ c ∈ text.toList, c ≠ '\n' ∧ c ≠ '\r'

instance (text : String) : Decidable (OneLine text) :=
  inferInstanceAs (Decidable (∀ c ∈ text.toList, c ≠ '\n' ∧ c ≠ '\r'))

theorem oneLine_append {first rest : String} (h : OneLine first) (h' : OneLine rest) :
    OneLine (first ++ rest) := by
  intro c member
  rw [String.toList_append] at member
  exact (List.mem_append.1 member).elim (h c) (h' c)

theorem oneLine_join {parts : List String} (h : ∀ part ∈ parts, OneLine part) :
    OneLine (String.join parts) := by
  induction parts with
  | nil => simp [OneLine]
  | cons part parts ih =>
    rw [String.join_cons]
    refine oneLine_append (h part List.mem_cons_self) (ih ?_)
    intro other member
    exact h other (List.mem_cons_of_mem part member)

theorem splitPairs_of_no_return {text : List Char} (no_return : '\r' ∉ text) :
    splitPairs text = [text] := by
  induction text with
  | nil => rfl
  | cons c rest ih =>
    rw [List.mem_cons, not_or] at no_return
    rw [splitPairs_cons fun _ same => absurd same.symm no_return.1, ih no_return.2]
    rfl

theorem split_of_oneLine (endings : LineEndings) {line : String} (oneLine : OneLine line) :
    endings.split line = [line] := by
  have no_return : '\r' ∉ line.toList := fun member => (oneLine _ member).2 rfl
  have cut : endings.cut line.toList = [line.toList] := by
    cases endings with
    | any =>
      have no_feed : '\n' ∉ line.toList := fun member => (oneLine _ member).1 rfl
      have no_last : line.toList.getLast? ≠ some '\r' :=
        fun last => no_return (List.mem_of_getLast? last)
      rw [LineEndings.cut, Text.splitOn_of_not_mem no_feed, List.map_singleton, dropReturn,
        if_neg no_last]
    | crlf => exact splitPairs_of_no_return no_return
  rw [split, cut, List.map_singleton, String.ofList_toList]

theorem split_any_append_return {line : String} (oneLine : OneLine line) :
    any.split (line ++ "\r") = [line] := by
  have no_feed : '\n' ∉ line.toList ++ ['\r'] := by
    intro member
    rcases List.mem_append.1 member with member | member
    · exact (oneLine _ member).1 rfl
    · simp at member
  have cut : any.cut (line ++ "\r").toList = [line.toList] := by
    show (Text.splitOn '\n' ((line ++ "\r").toList)).map dropReturn = _
    rw [String.toList_append]
    show (Text.splitOn '\n' (line.toList ++ ['\r'])).map dropReturn = _
    rw [Text.splitOn_of_not_mem no_feed, List.map_singleton, dropReturn,
      if_pos List.getLast?_concat, List.dropLast_concat]
  rw [split, cut, List.map_singleton, String.ofList_toList]

/-- What may be put between lines so that they are cut apart again. -/
def Separates (separator : String) (endings : LineEndings) : Prop :=
  separator = endings.terminator ∨ separator = "\r\n"

theorem Separates.split_append {separator : String} {endings : LineEndings}
    (separates : Separates separator endings) {line : String} (oneLine : OneLine line)
    (rest : String) : endings.split (line ++ separator ++ rest) = line :: endings.split rest := by
  have terminated : endings.split (line ++ endings.terminator ++ rest) =
      line :: endings.split rest := by
    rw [LineEndings.split_append, split_of_oneLine endings oneLine, List.singleton_append]
  rcases separates with rfl | rfl
  · exact terminated
  · cases endings with
    | crlf => exact terminated
    | any =>
      -- the carriage return belongs to the ending, though the line is cut behind it
      have ending : line ++ "\r\n" = line ++ "\r" ++ any.terminator := by
        rw [String.append_assoc]
        rfl
      rw [ending, LineEndings.split_append, split_any_append_return oneLine,
        List.singleton_append]

/-- **Cutting undoes joining.** -/
theorem split_intercalate {separator : String} {endings : LineEndings}
    (separates : Separates separator endings) {lines : List String} (some_line : lines ≠ [])
    (oneLine : ∀ line ∈ lines, OneLine line) :
    endings.split (separator.intercalate lines) = lines := by
  induction lines with
  | nil => exact absurd rfl some_line
  | cons line rest ih =>
    have first : OneLine line := oneLine line List.mem_cons_self
    cases rest with
    | nil => rw [String.intercalate_singleton, split_of_oneLine endings first]
    | cons next rest =>
      have others : ∀ other ∈ next :: rest, OneLine other := by
        intro other member
        exact oneLine other (List.mem_cons_of_mem line member)
      rw [String.intercalate_cons_cons, separates.split_append first,
        ih (List.cons_ne_nil next rest) others]

end Shorthand.LineEndings
