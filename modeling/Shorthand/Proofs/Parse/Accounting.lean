import Shorthand.Proofs.Line.Grammar
import Shorthand.Proofs.Parse.Outline

/-!
# The books of a parse

A parse that succeeds accounts for every line once: the line is an element of the document, or it
was left out and counted, or it is blank (`parse_accounts`). The events say which. What a stretch of
lines has come to is kept in books that compare the progress before it with the progress after it
(`Accounts`). Books of neighbouring stretches are put together (`Accounts.append`), so it is enough
to open them for one line, where a `Report` lists what can happen.
-/

namespace Shorthand

/-! ## Reading the events -/

namespace Event

/-- The number of the line that the event is about. -/
def line? : Event → Option Nat
  | rootElement line _ | nestedElement line _ _ | droppedNested line _ | clampedDepth line _ _
  | skippedLine line _ => some line
  | parsed .. | loadedSource .. | wroteOutput .. => none

/-- Whether the event announces an element. -/
def isElement : Event → Bool
  | rootElement .. | nestedElement .. => true
  | _ => false

def isRootElement : Event → Bool
  | rootElement .. => true
  | _ => false

def isDroppedNested : Event → Bool
  | droppedNested .. => true
  | _ => false

def isSkippedLine : Event → Bool
  | skippedLine .. => true
  | _ => false

/-- The line and the depth of a nested line that is not put at its depth. -/
def misplaced? : Event → Option (Nat × Nat)
  | droppedNested line depth | clampedDepth line depth _ => some (line, depth)
  | _ => none

end Event

/-- Whether the line starts a root. -/
def Line.Kind.isRoot : Line.Kind → Bool
  | root _ => true
  | nested .. | unrecognized => false

namespace Parse

/-- What is announced of a line with the given number: its element, if it is shorthand. -/
def announcement (line : String) (number : Nat) : Option Event :=
  match Line.classify line with
  | .root fields => some (.rootElement number fields.tag)
  | .nested depth fields => some (.nestedElement number depth fields.tag)
  | .unrecognized => none

/-- Whether every event about a misplaced line comes directly behind the announcement of that
line. -/
def Explained (events : List Event) : Prop :=
  ∀ earlier event later line depth, events = earlier ++ event :: later →
    event.misplaced? = some (line, depth) →
      ∃ others tag, earlier = others ++ [.nestedElement line depth tag]

/-! ## What a stretch of lines has come to -/

variable {options : ParseOptions} {number : Nat} {line : String} {before after : Progress}

def Progress.elements (progress : Progress) : Nat := progress.builder.outline.length

def Progress.roots (progress : Progress) : Nat :=
  progress.builder.outline.countP fun entry => entry.depth = 0

/-- The books of a stretch of lines, the first of them with the given number: what has been
gathered before and after it, and the events in between. -/
structure Accounts (number : Nat) (lines : List String) (before : Progress) (events : List Event)
    (after : Progress) : Prop where
  total : after.elements + after.skipped + lines.countP Text.isBlank =
    before.elements + before.skipped + lines.length
  leftOut : after.skipped = before.skipped +
    (events.countP Event.isSkippedLine + events.countP Event.isDroppedNested)
  roots : after.roots = before.roots + events.countP Event.isRootElement
  rootLines : events.countP Event.isRootElement =
    lines.countP fun line => (Line.classify line).isRoot
  announced : events.filter Event.isElement =
    (lines.zipIdx number).filterMap fun entry => announcement entry.1 entry.2
  explained : Explained events
  numbered : ∀ event ∈ events, ∃ line, event.line? = some line ∧ number ≤ line ∧
    line < number + lines.length
  ordered : (events.filterMap Event.line?).Pairwise (· ≤ ·)

theorem Explained.append {first second : List Event} (h : Explained first)
    (h' : Explained second) : Explained (first ++ second) := by
  intro earlier event later line depth split misplaced
  rcases List.append_eq_append_iff.1 split with ⟨others, rfl, rest⟩ | ⟨others, rfl, rest⟩
  · -- the event is one of the second
    obtain ⟨others', tag, rfl⟩ := h' others event later line depth rest misplaced
    exact ⟨first ++ others', tag, (List.append_assoc ..).symm⟩
  · cases others with
    | nil =>
      obtain ⟨others', tag, nothing⟩ := h' [] event later line depth rest.symm misplaced
      simp at nothing
    | cons head others =>
      obtain ⟨rfl, rfl⟩ := List.cons.inj rest
      exact h earlier event others line depth rfl misplaced

theorem explained_of_placed {events : List Event}
    (placed : ∀ event ∈ events, event.misplaced? = none) : Explained events := by
  intro earlier event later line depth split misplaced
  rw [placed event (by simp [split])] at misplaced
  cases misplaced

theorem explained_pair {event : Event} {line depth : Nat}
    (misplaced : event.misplaced? = some (line, depth)) (tag : String) :
    Explained [.nestedElement line depth tag, event] := by
  intro earlier other later line' depth' split misplaced'
  match earlier with
  | [] =>
    obtain ⟨rfl, -⟩ := List.cons.inj split
    cases misplaced'
  | [_] =>
    simp only [List.cons_append, List.nil_append, List.cons.injEq] at split
    obtain ⟨rfl, rfl, -⟩ := split
    rw [misplaced] at misplaced'
    cases misplaced'
    exact ⟨[], tag, rfl⟩
  | _ :: _ :: _ => simp at split

theorem Accounts.nil (number : Nat) (progress : Progress) :
    Accounts number [] progress [] progress where
  total := rfl
  leftOut := rfl
  roots := rfl
  rootLines := rfl
  announced := rfl
  explained := explained_of_placed (by simp)
  numbered := by simp
  ordered := List.Pairwise.nil

/-- Books of neighbouring stretches are put together. -/
theorem Accounts.append {first second : List String} {between : Progress}
    {events events' : List Event} (h : Accounts number first before events between)
    (h' : Accounts (number + first.length) second between events' after) :
    Accounts number (first ++ second) before (events ++ events') after where
  total := by
    have := h.total
    have := h'.total
    rw [List.countP_append, List.length_append]
    omega
  leftOut := by
    have := h.leftOut
    have := h'.leftOut
    rw [List.countP_append, List.countP_append]
    omega
  roots := by rw [h'.roots, h.roots, List.countP_append, Nat.add_assoc]
  rootLines := by rw [List.countP_append, List.countP_append, h.rootLines, h'.rootLines]
  announced := by
    rw [List.filter_append, h.announced, h'.announced, List.zipIdx_append, List.filterMap_append]
  explained := h.explained.append h'.explained
  numbered := by
    intro event member
    rw [List.length_append]
    rcases List.mem_append.1 member with member | member
    · obtain ⟨line, is_line, lower, upper⟩ := h.numbered event member
      exact ⟨line, is_line, lower, by omega⟩
    · obtain ⟨line, is_line, lower, upper⟩ := h'.numbered event member
      exact ⟨line, is_line, by omega, by omega⟩
  ordered := by
    rw [List.filterMap_append, List.pairwise_append]
    refine ⟨h.ordered, h'.ordered, ?_⟩
    intro line member line' member'
    obtain ⟨event, event_member, is_line⟩ := List.mem_filterMap.1 member
    obtain ⟨event', event_member', is_line'⟩ := List.mem_filterMap.1 member'
    obtain ⟨_, same, -, upper⟩ := h.numbered event event_member
    obtain ⟨_, same', lower, -⟩ := h'.numbered event' event_member'
    rw [is_line] at same
    rw [is_line'] at same'
    cases same
    cases same'
    omega

/-! ## The books of one line -/

theorem Progress.elements_settle {progress : Progress} {depth : Nat}
    (fits : depth ≤ progress.builder.height) (fields : Line.Fields) :
    (progress.settle depth fields.element).elements = progress.elements + 1 := by
  show (progress.builder.settle depth fields.element).outline.length = _
  rw [outline_settle_fields fits, List.length_append]
  rfl

theorem Progress.roots_settle {progress : Progress} {depth : Nat}
    (fits : depth ≤ progress.builder.height) (fields : Line.Fields) :
    (progress.settle depth fields.element).roots =
      progress.roots + [depth].countP (· = 0) := by
  show (progress.builder.settle depth fields.element).outline.countP _ = _
  rw [outline_settle_fields fits, List.countP_append]
  rfl

@[simp] theorem Progress.skipped_settle (progress : Progress) (depth : Nat) (element : Element) :
    (progress.settle depth element).skipped = progress.skipped := rfl

@[simp] theorem Progress.skipped_skip (progress : Progress) :
    progress.skip.skipped = progress.skipped + 1 := rfl

@[simp] theorem Progress.elements_skip (progress : Progress) :
    progress.skip.elements = progress.elements := rfl

section

variable {events : List Event} (h : Report number line before events after)

include h

theorem Report.total : after.elements + after.skipped + [line].countP Text.isBlank =
    before.elements + before.skipped + 1 := by
  have content {depth : Nat} {fields : Line.Fields} (kind : (Line.classify line).placed? =
      some (depth, fields)) : [line].countP Text.isBlank = 0 := by
    rw [List.countP_singleton, Line.isBlank_of_placed? kind]
    rfl
  cases h with
  | root kind =>
    rw [content (by rw [kind]; rfl), Progress.elements_settle (Nat.zero_le _),
      Progress.skipped_settle]
    omega
  | nested kind fits =>
    rw [content (by rw [kind]; rfl), Progress.elements_settle fits, Progress.skipped_settle]
    omega
  | clamped kind =>
    rw [content (by rw [kind]; rfl), Progress.elements_settle (Nat.le_refl _),
      Progress.skipped_settle]
    omega
  | dropped kind =>
    rw [content (by rw [kind]; rfl), Progress.elements_skip, Progress.skipped_skip]
    omega
  | blank kind blank => rw [List.countP_singleton, blank, if_pos rfl]
  | skipped kind content =>
    rw [List.countP_singleton, content, Progress.elements_skip, Progress.skipped_skip]
    rfl

theorem Report.leftOut : after.skipped = before.skipped +
    (events.countP Event.isSkippedLine + events.countP Event.isDroppedNested) := by
  cases h <;> rfl

/-- Only a root line gives a root: a nested line stands below something, also when it is put
higher than it says. -/
theorem Report.roots : after.roots = before.roots + events.countP Event.isRootElement := by
  cases h with
  | root => exact Progress.roots_settle (Nat.zero_le _) _
  | nested kind fits =>
    rw [Progress.roots_settle fits, List.countP_singleton]
    simp [Line.depth_ne_zero_of_nested kind, Event.isRootElement]
  | clamped kind deep opened =>
    rw [Progress.roots_settle (Nat.le_refl _), List.countP_singleton]
    simp [opened, Event.isRootElement]
  | dropped | blank | skipped => rfl

theorem Report.rootLines : events.countP Event.isRootElement =
    [line].countP fun line => (Line.classify line).isRoot := by
  cases h <;> simp [*, Event.isRootElement, Line.Kind.isRoot]

theorem Report.announced : events.filter Event.isElement =
    ([line].zipIdx number).filterMap fun entry => announcement entry.1 entry.2 := by
  cases h <;> simp [*, announcement, List.filter_cons, Event.isElement]

theorem Report.explained : Explained events := by
  cases h with
  | clamped | dropped => exact explained_pair rfl _
  | root | nested | blank | skipped => exact explained_of_placed (by simp [Event.misplaced?])

theorem Report.numbered : ∀ event ∈ events, event.line? = some number := by
  cases h <;> simp [Event.line?]

theorem Report.accounts : Accounts number [line] before events after where
  total := h.total
  leftOut := h.leftOut
  roots := h.roots
  rootLines := h.rootLines
  announced := h.announced
  explained := h.explained
  numbered := by
    intro event member
    exact ⟨number, h.numbered event member, Nat.le_refl number, Nat.lt_succ_self number⟩
  ordered := by
    cases h <;> simp [Event.line?]

end

/-! ## The whole parse -/

theorem accounts_run {lines : List String}
    (h : (run options number before lines).outcome = .ok after) :
    Accounts number lines before (run options number before lines).events after := by
  induction lines generalizing number before with
  | nil =>
    cases h
    exact .nil number _
  | cons line rest ih =>
    obtain ⟨between, first, others⟩ := Traced.outcome_bind_eq_ok.1 h
    rw [run, Traced.bind_of_ok first]
    exact (report_of_step first).accounts.append (ih others)

/-- What has been gathered at the end is what the document holds. -/
theorem length_rows_forest (progress : Progress) :
    (Document.mk progress.builder.forest).rows.length = progress.elements := by
  rw [Progress.elements, ← ForestBuilder.outlineAt_forest, Element.outlineAt, List.length_map]
  rfl

theorem length_forest (progress : Progress) :
    progress.builder.forest.length = progress.roots := by
  rw [Progress.roots, ← ForestBuilder.outlineAt_forest, Element.countP_outlineAt]

/-- **Every line is accounted for once.** When a parse succeeds, each line is an element of the
document, a line that was left out, or blank, and the last event counts the lines left out and the
roots. The events before it announce each shorthand line once, in the order of the lines; they tell
of each line left out, and of each one that is put higher directly behind its announcement; and
their line numbers never decrease. -/
theorem parse_accounts {options : ParseOptions} {source : String} {document : Document}
    (h : (parse options source).outcome = .ok document) :
    ∃ events skipped,
      parse options source =
        ⟨events ++ [.parsed document.roots.length skipped], .ok document⟩ ∧
      (options.lineEndings.split source).length =
        document.rows.length + skipped + (options.lineEndings.split source).countP Text.isBlank ∧
      (∀ line ∈ options.lineEndings.split source, Text.isBlank line = true →
        Line.classify line = .unrecognized) ∧
      skipped = events.countP Event.isSkippedLine + events.countP Event.isDroppedNested ∧
      document.roots.length = events.countP Event.isRootElement ∧
      document.roots.length =
        (options.lineEndings.split source).countP (fun line => (Line.classify line).isRoot) ∧
      events.filter Event.isElement =
        ((options.lineEndings.split source).zipIdx 1).filterMap
          (fun entry => announcement entry.1 entry.2) ∧
      Explained events ∧
      (events.filterMap Event.line?).Pairwise (· ≤ ·) ∧
      ∀ event ∈ events, ∃ line, event.line? = some line ∧ 1 ≤ line ∧
        line ≤ (options.lineEndings.split source).length := by
  obtain ⟨after, ran, finished⟩ := Traced.outcome_bind_eq_ok.1 h
  cases finished
  have books := accounts_run ran
  have roots : after.builder.forest.length = _ :=
    (length_forest after).trans (books.roots.trans (Nat.zero_add _))
  refine ⟨_, after.skipped, ?_, ?_, ?_, ?_, roots, roots.trans books.rootLines, books.announced,
    books.explained, books.ordered, ?_⟩
  · exact Traced.bind_of_ok ran finish
  · have total := books.total
    have nothing : Progress.start.elements + Progress.start.skipped = 0 := rfl
    rw [nothing, Nat.zero_add] at total
    rw [length_rows_forest, total]
  · intro line _ blank
    exact Line.classify_of_isBlank blank
  · exact books.leftOut.trans (Nat.zero_add _)
  · intro event member
    obtain ⟨line, is_line, lower, upper⟩ := books.numbered event member
    exact ⟨line, is_line, lower, by omega⟩

/-- A nested line that is dropped, one that is put higher, two blank lines and one of prose: of
eight lines four are elements, two are left out and two are blank. -/
theorem parse_accounts_mixed :
    ∃ document events,
      (parse {} " b\nul\n   li.x\n\n \t\nwidget\n  b\nhr").outcome = .ok document ∧
      parse {} " b\nul\n   li.x\n\n \t\nwidget\n  b\nhr" =
        ⟨events ++ [.parsed document.roots.length 2], .ok document⟩ ∧
      events =
        [.nestedElement 1 1 "b", .droppedNested 1 1, .rootElement 2 "ul", .nestedElement 3 3 "li",
          .clampedDepth 3 3 1, .skippedLine 6 "widget", .nestedElement 7 2 "b",
          .rootElement 8 "hr"] ∧
      document.rows.length = 4 ∧ document.roots.length = 2 ∧ Explained events ∧
      (events.filterMap Event.line?).Pairwise (· ≤ ·) := by
  obtain ⟨document, parsed⟩ := Traced.exists_of_isOk
    (show (parse {} " b\nul\n   li.x\n\n \t\nwidget\n  b\nhr").outcome.isOk = true by
      decide +kernel)
  obtain ⟨events, skipped, whole, total, -, -, -, -, -, explained, ordered, -⟩ :=
    parse_accounts parsed
  have reported : (parse {} " b\nul\n   li.x\n\n \t\nwidget\n  b\nhr").events =
      [.nestedElement 1 1 "b", .droppedNested 1 1, .rootElement 2 "ul", .nestedElement 3 3 "li",
        .clampedDepth 3 3 1, .skippedLine 6 "widget", .nestedElement 7 2 "b",
        .rootElement 8 "hr"] ++ [.parsed 2 2] := by
    decide +kernel
  have lines : ({} : ParseOptions).lineEndings.split
      " b\nul\n   li.x\n\n \t\nwidget\n  b\nhr" =
      [" b", "ul", "   li.x", "", " \t", "widget", "  b", "hr"] := by
    decide +kernel
  have blank :
      [" b", "ul", "   li.x", "", " \t", "widget", "  b", "hr"].countP Text.isBlank = 2 := by
    decide +kernel
  rw [whole] at reported
  obtain ⟨same, last⟩ := List.append_inj' reported rfl
  obtain ⟨roots, rfl⟩ : document.roots.length = 2 ∧ skipped = 2 := by simpa using last
  rw [lines, blank] at total
  have elements : document.rows.length = 4 := by
    simp only [List.length_cons, List.length_nil] at total
    omega
  exact ⟨document, events, parsed, whole, same, elements, roots, explained, ordered⟩

end Parse

end Shorthand
