import Shorthand.Parse.Basic

/-!
# What one line comes to

The ways in which a parse gets over one line, with all that each of them does: the events, the
element and where it is settled, the count of lines left out. Whatever the policies are, a step
that succeeds is one of these (`report_of_step`), so a property of parses that succeed is looked at
here and not in the code of a step.
-/

namespace Shorthand

namespace Parse

/-- What a line comes to when the parse goes on: its events, and what has been gathered after
it. The options do not show in it; they only decide whether the parse goes on. -/
inductive Report (number : Nat) (line : String) (before : Progress) :
    List Event → Progress → Prop
  | root {fields : Line.Fields} (kind : Line.classify line = .root fields) :
    Report number line before [.rootElement number fields.tag] (before.settle 0 fields.element)
  | nested {depth : Nat} {fields : Line.Fields} (kind : Line.classify line = .nested depth fields)
      (fits : depth ≤ before.builder.height) :
    Report number line before [.nestedElement number depth fields.tag]
      (before.settle depth fields.element)
  | clamped {depth : Nat} {fields : Line.Fields} (kind : Line.classify line = .nested depth fields)
      (deep : before.builder.height < depth) (opened : before.builder.height ≠ 0) :
    Report number line before
      [.nestedElement number depth fields.tag, .clampedDepth number depth before.builder.height]
      (before.settle before.builder.height fields.element)
  | dropped {depth : Nat} {fields : Line.Fields} (kind : Line.classify line = .nested depth fields)
      (closed : before.builder.height = 0) :
    Report number line before
      [.nestedElement number depth fields.tag, .droppedNested number depth] before.skip
  | blank (kind : Line.classify line = .unrecognized) (blank : Text.isBlank line = true) :
    Report number line before [] before
  | skipped (kind : Line.classify line = .unrecognized) (content : Text.isBlank line = false) :
    Report number line before [.skippedLine number line] before.skip

variable {options : ParseOptions} {number : Nat} {line : String} {before after : Progress}

theorem report_of_otherLine (kind : Line.classify line = .unrecognized)
    (h : (otherLine options number line before).outcome = .ok after) :
    Report number line before (otherLine options number line before).events after := by
  unfold otherLine at h ⊢
  by_cases blank : Text.isBlank line = true
  · rw [if_pos blank] at h ⊢
    cases h
    exact .blank kind blank
  · rw [if_neg blank] at h ⊢
    cases policy : options.unrecognizedLines with
    | skip =>
      rw [policy] at h
      cases h
      exact .skipped kind (by simpa using blank)
    | reject =>
      rw [policy] at h
      cases h

theorem report_of_nested {depth : Nat} {fields : Line.Fields}
    (kind : Line.classify line = .nested depth fields)
    (h : (elementLine options number line depth fields.element before).outcome = .ok after) :
    Report number line before
      (.nestedElement number depth fields.tag ::
        (elementLine options number line depth fields.element before).events) after := by
  rw [elementLine_eq] at h ⊢
  by_cases fits : depth ≤ before.builder.height
  · rw [placement_of_le fits] at h ⊢
    cases h
    exact .nested kind fits
  · have deep : before.builder.height < depth := by omega
    cases policy : options.depth with
    | reject =>
      rw [policy, placement_reject_of_lt deep] at h
      cases h
    | clamp =>
      rw [policy, placement_clamp_of_lt deep] at h
      rw [placement_clamp_of_lt deep]
      by_cases closed : before.builder.height = 0
      · rw [if_pos closed] at h ⊢
        cases h
        exact .dropped kind closed
      · rw [if_neg closed] at h ⊢
        cases h
        exact .clamped kind deep closed

/-- **Inversion of a step**: a step that succeeds is one of those listed. -/
theorem report_of_step (h : (step options number line before).outcome = .ok after) :
    Report number line before (step options number line before).events after := by
  cases kind : Line.classify line with
  | root fields =>
    simp only [step, kind, Traced.report_bind, elementLine_eq,
      placement_of_le (Nat.zero_le _)] at h ⊢
    cases h
    exact .root kind
  | nested depth fields =>
    simp only [step, kind, Traced.report_bind] at h ⊢
    exact report_of_nested kind h
  | unrecognized =>
    simp only [step, kind] at h ⊢
    exact report_of_otherLine kind h

end Parse

end Shorthand
