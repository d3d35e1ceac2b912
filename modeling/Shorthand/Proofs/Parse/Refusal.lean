import Shorthand.Parse.Basic

/-!
# What a parse fails at

A parse fails at one line, for one of two causes, and everything in front of that line has been
parsed (`refusal_of_run`). Together with `Report`, which lists the ways to get over a line, this is
all that can happen at a line.
-/

namespace Shorthand

namespace Parse

/-- Why a line is refused, with the error that is given for it. -/
inductive Refusal (options : ParseOptions) (number : Nat) (line : String) (before : Progress) :
    ParseError → Prop
  | unrecognized (kind : Line.classify line = .unrecognized)
      (content : Text.isBlank line = false) (policy : options.unrecognizedLines = .reject) :
    Refusal options number line before (.unrecognizedLine number line)
  | tooDeep {depth : Nat} {fields : Line.Fields}
      (placed : (Line.classify line).placed? = some (depth, fields))
      (policy : options.depth = .reject) (deep : before.builder.height < depth) :
    Refusal options number line before
      (.malformedDepth number line depth before.builder.height)

variable {options : ParseOptions} {number : Nat} {line : String} {before : Progress}
  {error : ParseError}

theorem Refusal.line_eq (h : Refusal options number line before error) : error.line = number := by
  cases h <;> rfl

/-! ## One line -/

/-- Reporting a shorthand line does not decide whether it is taken. -/
theorem outcome_step_of_placed? {depth : Nat} {fields : Line.Fields}
    (placed : (Line.classify line).placed? = some (depth, fields)) :
    (step options number line before).outcome =
      (elementLine options number line depth fields.element before).outcome := by
  unfold step
  cases kind : Line.classify line with
  | root found =>
    rw [kind] at placed
    cases placed
    rfl
  | nested found_depth found =>
    rw [kind] at placed
    cases placed
    rfl
  | unrecognized =>
    rw [kind] at placed
    cases placed

/-- A shorthand line that is no deeper than the open elements allow is taken. -/
theorem exists_step_of_le {depth : Nat} {fields : Line.Fields}
    (placed : (Line.classify line).placed? = some (depth, fields))
    (fits : depth ≤ before.builder.height) :
    ∃ after, (step options number line before).outcome = .ok after := by
  rw [outcome_step_of_placed? placed, elementLine_eq, placement_of_le fits]
  exact ⟨_, rfl⟩

theorem Refusal.outcome_step (h : Refusal options number line before error) :
    (step options number line before).outcome = .error error := by
  cases h with
  | unrecognized kind content policy =>
    simp [step, kind, otherLine, content, policy, Traced.fail]
  | tooDeep placed policy deep =>
    rw [outcome_step_of_placed? placed, elementLine_eq, policy, placement_reject_of_lt deep]
    rfl

theorem refusal_of_elementLine {depth : Nat} {fields : Line.Fields}
    (placed : (Line.classify line).placed? = some (depth, fields))
    (h : (elementLine options number line depth fields.element before).outcome = .error error) :
    Refusal options number line before error := by
  rw [elementLine_eq] at h
  by_cases fits : depth ≤ before.builder.height
  · rw [placement_of_le fits] at h
    cases h
  · have deep : before.builder.height < depth := by omega
    cases policy : options.depth with
    | reject =>
      rw [policy, placement_reject_of_lt deep] at h
      cases h
      exact .tooDeep placed policy deep
    | clamp =>
      rw [policy, placement_clamp_of_lt deep] at h
      by_cases closed : before.builder.height = 0
      · rw [if_pos closed] at h
        cases h
      · rw [if_neg closed] at h
        cases h

theorem refusal_of_otherLine (kind : Line.classify line = .unrecognized)
    (h : (otherLine options number line before).outcome = .error error) :
    Refusal options number line before error := by
  unfold otherLine at h
  by_cases blank : Text.isBlank line = true
  · rw [if_pos blank] at h
    cases h
  · rw [if_neg blank] at h
    cases policy : options.unrecognizedLines with
    | skip =>
      rw [policy] at h
      cases h
    | reject =>
      rw [policy] at h
      cases h
      exact .unrecognized kind (by simpa using blank) policy

/-- **Inversion of a step that fails.** -/
theorem refusal_of_step (h : (step options number line before).outcome = .error error) :
    Refusal options number line before error := by
  cases kind : Line.classify line with
  | root fields =>
    have placed : (Line.classify line).placed? = some (0, fields) := by rw [kind]; rfl
    rw [outcome_step_of_placed? placed] at h
    exact refusal_of_elementLine placed h
  | nested depth fields =>
    have placed : (Line.classify line).placed? = some (depth, fields) := by rw [kind]; rfl
    rw [outcome_step_of_placed? placed] at h
    exact refusal_of_elementLine placed h
  | unrecognized =>
    rw [step, kind] at h
    exact refusal_of_otherLine kind h

/-! ## All lines -/

/-- **Inversion of a run that fails**: the lines in front of the one at fault are taken, and that
one is refused. -/
theorem refusal_of_run {lines : List String}
    (h : (run options number before lines).outcome = .error error) :
    ∃ first line rest between, lines = first ++ line :: rest ∧
      (run options number before first).outcome = .ok between ∧
      Refusal options (number + first.length) line between error := by
  induction lines generalizing number before with
  | nil => cases h
  | cons line rest ih =>
    rw [run] at h
    cases taken : (step options number line before).outcome with
    | error error' =>
      rw [Traced.outcome_bind_of_error taken] at h
      cases h
      exact ⟨[], line, rest, before, rfl, rfl, refusal_of_step taken⟩
    | ok after =>
      rw [Traced.outcome_bind_of_ok taken] at h
      obtain ⟨first, refused, others, between, rfl, ran, refusal⟩ := ih h
      refine ⟨line :: first, refused, others, between, rfl, ?_, ?_⟩
      · rw [run, Traced.outcome_bind_of_ok taken, ran]
      · rw [List.length_cons, Nat.add_comm first.length, ← Nat.add_assoc]
        exact refusal

/-- An error names one of the lines that were still to be taken. -/
theorem le_line_of_run {lines : List String}
    (h : (run options number before lines).outcome = .error error) : number ≤ error.line := by
  obtain ⟨first, line, rest, between, -, -, refusal⟩ := refusal_of_run h
  rw [refusal.line_eq]
  exact Nat.le_add_right number first.length

/-! ## Sources -/

theorem outcome_parse_of_run_ok {options : ParseOptions} {source : String} {after : Progress}
    (h : (run options 1 .start (options.lineEndings.split source)).outcome = .ok after) :
    (parse options source).outcome = .ok ⟨after.builder.forest⟩ :=
  Traced.outcome_bind_of_ok h finish

theorem run_of_parse_error {options : ParseOptions} {source : String} {error : ParseError}
    (h : (parse options source).outcome = .error error) :
    (run options 1 .start (options.lineEndings.split source)).outcome = .error error := by
  cases ran : (run options 1 .start (options.lineEndings.split source)).outcome with
  | ok after =>
    rw [outcome_parse_of_run_ok ran] at h
    cases h
  | error error' =>
    rw [parse, Traced.outcome_bind_of_error ran] at h
    cases h
    rfl

variable {source : String} {first rest : List String} {between : Progress}

/-- A line that is refused behind lines that are taken is what the parse fails at. -/
theorem outcome_parse_of_refusal
    (lines : options.lineEndings.split source = first ++ line :: rest)
    (ran : (run options 1 .start first).outcome = .ok between)
    (refusal : Refusal options (1 + first.length) line between error) :
    (parse options source).outcome = .error error := by
  apply Traced.outcome_bind_of_error
  rw [lines, run_append, Traced.outcome_bind_of_ok ran, run]
  exact Traced.outcome_bind_of_error refusal.outcome_step _

/-- When a line is taken behind lines that are taken, a parse that fails does so further down. -/
theorem lt_line_of_parse {after : Progress}
    (lines : options.lineEndings.split source = first ++ line :: rest)
    (ran : (run options 1 .start first).outcome = .ok between)
    (taken : (step options (1 + first.length) line between).outcome = .ok after)
    (failed : (parse options source).outcome = .error error) : 1 + first.length < error.line := by
  have ended := run_of_parse_error failed
  rw [lines, run_append, Traced.outcome_bind_of_ok ran, run,
    Traced.outcome_bind_of_ok taken] at ended
  exact le_line_of_run ended

end Parse

end Shorthand
