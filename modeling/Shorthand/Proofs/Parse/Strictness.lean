import Shorthand.Parse.Basic

/-!
# Strict and lenient parses

Rejecting is a lenient parse that is cut short. The lenient policies never make a parse fail, and
what they let pass they report; a strict policy reports the same up to the first event that it
does not let pass, and fails there with an error about the line of that event. The relation
`CutShort` says this of two traced programs. It is kept by composition (`CutShort.bind`), so it is
enough to look at what one line does.
-/

namespace Shorthand

/-- Whether the options make a failure of what an event reports. -/
def ParseOptions.rejects (options : ParseOptions) : Event → Bool
  | .skippedLine .. => options.unrecognizedLines = .reject
  | .droppedNested .. | .clampedDepth .. => options.depth = .reject
  | .rootElement .. | .nestedElement .. | .parsed .. | .loadedSource .. | .wroteOutput .. => false

namespace Parse

/-! ## Errors for events -/

/-- The error that takes the place of a rejected event, when the source has the given lines: it
names the same line and gives its content, and the deepest depth that would have been accepted. -/
inductive ErrorFor (lines : List String) : Event → ParseError → Prop
  | skipped {index : Nat} {content : String} (line : lines[index]? = some content) :
    ErrorFor lines (.skippedLine (index + 1) content) (.unrecognizedLine (index + 1) content)
  | dropped {index depth : Nat} {content : String} (line : lines[index]? = some content) :
    ErrorFor lines (.droppedNested (index + 1) depth) (.malformedDepth (index + 1) content depth 0)
  | clamped {index depth height : Nat} {content : String} (line : lines[index]? = some content) :
    ErrorFor lines (.clampedDepth (index + 1) depth height)
      (.malformedDepth (index + 1) content depth height)

/-! ## Cutting a program short -/

variable {α β : Type} {rejects : Event → Bool} {answers : Event → ParseError → Prop}

/-- The second program is the first one, or as much of it as comes before the first rejected
event, ended by an error that answers the event. -/
inductive CutShort (rejects : Event → Bool) (answers : Event → ParseError → Prop)
    (full : Traced ParseError α) : Traced ParseError α → Prop
  | whole (passes : ∀ event ∈ full.events, rejects event = false) :
    CutShort rejects answers full full
  | cut {before after : List Event} {event : Event} {error : ParseError}
    (events : full.events = before ++ event :: after)
    (passes : ∀ event ∈ before, rejects event = false) (rejected : rejects event = true)
    (answer : answers event error) : CutShort rejects answers full ⟨before, .error error⟩

namespace CutShort

theorem ok (result : α) : CutShort rejects answers (.ok result) (.ok result) := by
  refine .whole ?_
  intro event h
  cases h

theorem head {events : List Event} {event : Event} {error : ParseError}
    {outcome : Except ParseError α} (rejected : rejects event = true)
    (answer : answers event error) :
    CutShort rejects answers ⟨event :: events, outcome⟩ (.fail error) := by
  refine .cut (show event :: events = [] ++ event :: events from rfl) ?_ rejected answer
  intro earlier h
  cases h

/-- Programs that are related part by part are related as a whole: if the first part is cut, the
second is not reached. -/
theorem bind {full short : Traced ParseError α} (first : CutShort rejects answers full short)
    {left right : α → Traced ParseError β}
    (next : ∀ result, CutShort rejects answers (left result) (right result)) :
    CutShort rejects answers (full.bind left) (short.bind right) := by
  obtain ⟨events, outcome⟩ := full
  cases first with
  | whole passes =>
    cases outcome with
    | error error => exact .whole passes
    | ok result =>
      have second := next result
      show CutShort rejects answers ⟨events ++ (left result).events, (left result).outcome⟩
        ⟨events ++ (right result).events, (right result).outcome⟩
      generalize left result = rest at second
      generalize right result = short at second
      cases second with
      | whole passes' => exact .whole (List.forall_mem_append.2 ⟨passes, passes'⟩)
      | @cut before after event error split passes' rejected answer =>
        have split' : events ++ rest.events = (events ++ before) ++ event :: after := by
          rw [split, List.append_assoc]
        exact .cut split' (List.forall_mem_append.2 ⟨passes, passes'⟩) rejected answer
  | @cut before after event error split passes rejected answer =>
    subst split
    cases outcome with
    | error error => exact .cut rfl passes rejected answer
    | ok result =>
      have split : (before ++ event :: after) ++ (left result).events =
          before ++ event :: (after ++ (left result).events) := by
        rw [List.append_assoc, List.cons_append]
      exact .cut split passes rejected answer

end CutShort

/-! ## One line -/

variable {options : ParseOptions} {lines : List String} {index : Nat} {line : String}

theorem cutShort_elementLine (at_index : lines[index]? = some line) (depth : Nat)
    (element : Element) (progress : Progress) :
    CutShort options.rejects (ErrorFor lines)
      (elementLine options.lenient (index + 1) line depth element progress)
      (elementLine options (index + 1) line depth element progress) := by
  simp only [elementLine_eq]
  by_cases fits : depth ≤ progress.builder.height
  · simp only [placement_of_le fits]
    exact .ok _
  · have deep : progress.builder.height < depth := by omega
    have lenient : options.lenient.depth = .clamp := rfl
    rw [lenient, placement_clamp_of_lt deep]
    cases policy : options.depth with
    | clamp =>
      rw [placement_clamp_of_lt deep]
      refine .whole ?_
      intro event h
      by_cases nothing : progress.builder.height = 0
      · simp only [nothing, if_true, List.mem_singleton] at h
        simp [h, ParseOptions.rejects, policy]
      · simp only [nothing, if_false, List.mem_singleton] at h
        simp [h, ParseOptions.rejects, policy]
    | reject =>
      rw [placement_reject_of_lt deep]
      by_cases nothing : progress.builder.height = 0
      · rw [if_pos nothing, nothing]
        exact .head (by simp [ParseOptions.rejects, policy]) (.dropped at_index)
      · rw [if_neg nothing]
        exact .head (by simp [ParseOptions.rejects, policy]) (.clamped at_index)

theorem cutShort_otherLine (at_index : lines[index]? = some line) (progress : Progress) :
    CutShort options.rejects (ErrorFor lines)
      (otherLine options.lenient (index + 1) line progress)
      (otherLine options (index + 1) line progress) := by
  unfold otherLine
  by_cases blank : Text.isBlank line = true
  · rw [if_pos blank, if_pos blank]
    exact .ok _
  · rw [if_neg blank, if_neg blank]
    have lenient : options.lenient.unrecognizedLines = .skip := rfl
    rw [lenient]
    cases policy : options.unrecognizedLines with
    | skip =>
      refine .whole ?_
      intro event h
      rw [List.mem_singleton.1 h]
      simp [ParseOptions.rejects, policy]
    | reject => exact .head (by simp [ParseOptions.rejects, policy]) (.skipped at_index)

theorem cutShort_report {event : Event} (passes : options.rejects event = false) :
    CutShort options.rejects (ErrorFor lines) (Traced.report event) (Traced.report event) := by
  refine .whole ?_
  intro other h
  rwa [List.mem_singleton.1 h]

theorem cutShort_step (at_index : lines[index]? = some line) (progress : Progress) :
    CutShort options.rejects (ErrorFor lines) (step options.lenient (index + 1) line progress)
      (step options (index + 1) line progress) := by
  unfold step
  cases Line.classify line with
  | root fields =>
    refine (cutShort_report rfl).bind ?_
    intro _
    exact cutShort_elementLine at_index 0 _ progress
  | nested depth fields =>
    refine (cutShort_report rfl).bind ?_
    intro _
    exact cutShort_elementLine at_index depth _ progress
  | unrecognized => exact cutShort_otherLine at_index progress

/-! ## All lines -/

theorem cutShort_run {first rest : List String} (split : lines = first ++ rest)
    (progress : Progress) :
    CutShort options.rejects (ErrorFor lines)
      (run options.lenient (first.length + 1) progress rest)
      (run options (first.length + 1) progress rest) := by
  induction rest generalizing first progress with
  | nil => exact .ok _
  | cons line rest ih =>
    have at_index : lines[first.length]? = some line := by simp [split]
    refine (cutShort_step at_index progress).bind ?_
    intro after
    have split' : lines = (first ++ [line]) ++ rest := by simp [split]
    have next := ih split' after
    rwa [List.length_append] at next

theorem cutShort_parse (options : ParseOptions) (source : String) :
    CutShort options.rejects (ErrorFor (options.lineEndings.split source))
      (parse options.lenient source) (parse options source) := by
  have split : options.lineEndings.split source = [] ++ options.lineEndings.split source := rfl
  refine (cutShort_run split .start).bind ?_
  intro after
  refine .whole ?_
  intro event h
  rw [List.mem_singleton.1 h]
  rfl

/-! ## Lenient policies -/

theorem step_lenient_ok (options : ParseOptions) (number : Nat) (line : String)
    (progress : Progress) :
    ∃ after, (step options.lenient number line progress).outcome = .ok after := by
  have element (depth : Nat) (element : Element) : ∃ after,
      (elementLine options.lenient number line depth element progress).outcome = .ok after := by
    rw [elementLine_eq]
    split
    · exact ⟨_, rfl⟩
    · exact ⟨_, rfl⟩
    · exact ⟨_, rfl⟩
    · next refused => exact absurd refused (placement_clamp_ne_refused _ _)
  unfold step
  split
  · exact element 0 _
  · exact element _ _
  · unfold otherLine
    split <;> exact ⟨_, rfl⟩

theorem run_lenient_ok (options : ParseOptions) (number : Nat) (lines : List String)
    (progress : Progress) :
    ∃ after, (run options.lenient number progress lines).outcome = .ok after := by
  induction lines generalizing number progress with
  | nil => exact ⟨progress, rfl⟩
  | cons line rest ih =>
    obtain ⟨between, first⟩ := step_lenient_ok options number line progress
    obtain ⟨after, others⟩ := ih (number + 1) between
    exact ⟨after, Traced.outcome_bind_eq_ok.2 ⟨between, first, others⟩⟩

theorem parse_lenient_ok (options : ParseOptions) (source : String) :
    ∃ document, (parse options.lenient source).outcome = .ok document := by
  obtain ⟨after, ran⟩ := run_lenient_ok options 1 (options.lenient.lineEndings.split source) .start
  exact ⟨_, Traced.outcome_bind_eq_ok.2 ⟨after, ran, rfl⟩⟩

/-- **A strict parse is a lenient parse cut short.** The lenient parse of a source succeeds. When
the options reject none of its events, their parse is the same; else it has the events before the
first rejected one and fails with the error for that one. The builder never refuses an element
where a policy has let it pass. -/
theorem parse_cut_short (options : ParseOptions) (source : String) :
    ∃ events document, parse options.lenient source = ⟨events, .ok document⟩ ∧
      ((∀ event ∈ events, options.rejects event = false) →
        parse options source = ⟨events, .ok document⟩) ∧
      ((∃ event ∈ events, options.rejects event = true) →
        ∃ before event after error, events = before ++ event :: after ∧
          (∀ earlier ∈ before, options.rejects earlier = false) ∧
          options.rejects event = true ∧
          ErrorFor (options.lineEndings.split source) event error ∧
          parse options source = ⟨before, .error error⟩) ∧
      ∀ (progress : Progress) (depth : Nat) (element : Element),
        (placement options.depth depth progress.builder.height = .fits →
          ∃ builder, progress.builder.place depth element = .ok builder) ∧
        (placement options.depth depth progress.builder.height = .clamped →
          ∃ builder, progress.builder.place progress.builder.height element = .ok builder) := by
  obtain ⟨document, succeeds⟩ := parse_lenient_ok options source
  have related := cutShort_parse options source
  generalize parse options.lenient source = full at succeeds related
  generalize parse options source = short at related
  obtain ⟨events, outcome⟩ := full
  subst succeeds
  refine ⟨events, document, rfl, ?_, ?_, ?_⟩
  · intro passes
    cases related with
    | whole => rfl
    | @cut before after event error split _ rejected _ =>
      have member : event ∈ events := by
        rw [show events = before ++ event :: after from split]
        simp
      rw [passes event member] at rejected
      cases rejected
  · intro offence
    obtain ⟨event, member, rejected⟩ := offence
    cases related with
    | whole passes =>
      rw [passes event member] at rejected
      cases rejected
    | cut split passes rejected answer =>
      exact ⟨_, _, _, _, split, passes, rejected, answer, rfl⟩
  · intro progress depth element
    constructor
    · intro fits
      exact ForestBuilder.place_isOk_iff.2 (le_of_placement_fits fits)
    · intro _
      exact ForestBuilder.place_isOk_iff.2 (Nat.le_refl _)

end Parse

end Shorthand
