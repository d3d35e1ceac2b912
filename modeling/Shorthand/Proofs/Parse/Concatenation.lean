import Shorthand.Proofs.Forest.Behind
import Shorthand.Proofs.Line.Endings
import Shorthand.Proofs.Parse.Refusal

/-!
# Parsing sources that are put together

If a source ends where another one starts with a root, parsing both together is parsing them one
after the other: the roots follow each other, and an error in the second is the same error further
down (`parse_append`). The second half starts while elements of the first are open. Until its first
root comes nothing looks at them, since there is no nested line, and the root closes them; from
there on the two runs differ only in the roots that are finished already (`Follows`).
-/

namespace Shorthand

namespace Parse

/-! ## The same outcome further down -/

variable {α β : Type} {related : α → β → Prop} {offset : Nat}

/-- Two outcomes of which the second is that of the same lines further down: results are related,
and errors differ in the number of their line. -/
inductive Shifted (offset : Nat) (related : α → β → Prop) :
    Except ParseError α → Except ParseError β → Prop
  | ok {first : α} {second : β} (h : related first second) :
    Shifted offset related (.ok first) (.ok second)
  | error (error : ParseError) :
    Shifted offset related (.error error) (.error (error.shift offset))

theorem Shifted.bind {γ δ : Type} {related' : γ → δ → Prop} {first : Traced ParseError α}
    {second : Traced ParseError β} (h : Shifted offset related first.outcome second.outcome)
    {next : α → Traced ParseError γ} {next' : β → Traced ParseError δ}
    (h' : ∀ a b, related a b → Shifted offset related' (next a).outcome (next' b).outcome) :
    Shifted offset related' (first.bind next).outcome (second.bind next').outcome := by
  generalize left : first.outcome = outcome at h
  generalize right : second.outcome = outcome' at h
  cases h with
  | ok results =>
    rw [Traced.outcome_bind_of_ok left, Traced.outcome_bind_of_ok right]
    exact h' _ _ results
  | error error =>
    rw [Traced.outcome_bind_of_error left, Traced.outcome_bind_of_error right]
    exact .error error

theorem Shifted.imp {related' : α → β → Prop} {first : Except ParseError α}
    {second : Except ParseError β} (h : Shifted offset related first second)
    (weaker : ∀ a b, related a b → related' a b) : Shifted offset related' first second := by
  cases h with
  | ok results => exact .ok (weaker _ _ results)
  | error error => exact .error error

theorem Shifted.report {event event' : Event} :
    Shifted (α := Unit) offset Eq (Traced.report event).outcome (Traced.report event').outcome :=
  .ok rfl

/-! ## One line -/

/-- How a parse that goes on behind other lines stands to a parse of its own lines alone, when
`before` is what had been built: no root has come yet and nothing was built, or all that was built
stands behind the forest from before. -/
inductive Follows (before : ForestBuilder) (alone joined : Progress) : Prop
  | waiting (alone : alone.builder = .empty) (joined : joined.builder = before)
  | started (joined : joined.builder = alone.builder.behind before.forest)

def Started (before : ForestBuilder) (alone joined : Progress) : Prop :=
  joined.builder = alone.builder.behind before.forest

theorem Follows.forest_eq {before : ForestBuilder} {alone joined : Progress}
    (h : Follows before alone joined) :
    joined.builder.forest = before.forest ++ alone.builder.forest := by
  cases h with
  | waiting nothing same =>
    rw [same, nothing]
    exact (List.append_nil _).symm
  | started same => rw [same, ForestBuilder.forest_behind]

variable {before : ForestBuilder} {alone joined : Progress}

/-- Nothing is built from a line that is not shorthand, so any relation of what is built stays. -/
theorem shifted_otherLine (options : ParseOptions) (number : Nat) (line : String)
    (kept : ForestBuilder → ForestBuilder → Prop) (h : kept alone.builder joined.builder) :
    Shifted offset (fun alone joined => kept alone.builder joined.builder)
      (otherLine options number line alone).outcome
      (otherLine options (number + offset) line joined).outcome := by
  unfold otherLine
  by_cases blank : Text.isBlank line = true
  · rw [if_pos blank, if_pos blank]
    exact .ok h
  · rw [if_neg blank, if_neg blank]
    cases options.unrecognizedLines with
    | skip => exact .ok h
    | reject => exact .error (.unrecognizedLine number line)

theorem shifted_elementLine (options : ParseOptions) (number : Nat) (line : String) (depth : Nat)
    (element : Element) (h : Started before alone joined) :
    Shifted offset (Started before)
      (elementLine options number line depth element alone).outcome
      (elementLine options (number + offset) line depth element joined).outcome := by
  have same : joined.builder = alone.builder.behind before.forest := h
  have settled (depth : Nat) :
      Started before (alone.settle depth element) (joined.settle depth element) := by
    show joined.builder.settle depth element =
      (alone.builder.settle depth element).behind before.forest
    rw [same, ForestBuilder.settle_behind]
  rw [elementLine_eq, elementLine_eq, same, ForestBuilder.height_behind]
  cases placement options.depth depth alone.builder.height with
  | fits => exact .ok (settled depth)
  | clamped => exact .ok (settled alone.builder.height)
  | dropped => exact .ok h
  | refused => exact .error (.malformedDepth number line depth alone.builder.height)

theorem shifted_step_of_started (options : ParseOptions) (number : Nat) (line : String)
    (h : Started before alone joined) :
    Shifted offset (Started before) (step options number line alone).outcome
      (step options (number + offset) line joined).outcome := by
  unfold step
  cases Line.classify line with
  | root fields =>
    refine Shifted.report.bind ?_
    intro _ _ _
    exact shifted_elementLine options number line 0 fields.element h
  | nested depth fields =>
    refine Shifted.report.bind ?_
    intro _ _ _
    exact shifted_elementLine options number line depth fields.element h
  | unrecognized =>
    exact shifted_otherLine options number line (fun a b => b = a.behind before.forest) h

/-- The first root finds nothing open or closes what is open. -/
theorem shifted_step_of_root (options : ParseOptions) (number : Nat) {line : String}
    {fields : Line.Fields} (kind : Line.classify line = .root fields)
    (nothing : alone.builder = .empty) (built : joined.builder = before) :
    Shifted offset (Started before) (step options number line alone).outcome
      (step options (number + offset) line joined).outcome := by
  unfold step
  rw [kind]
  refine Shifted.report.bind ?_
  intro _ _ _
  rw [elementLine_eq, elementLine_eq, placement_of_le (Nat.zero_le _),
    placement_of_le (Nat.zero_le _)]
  refine .ok ?_
  show joined.builder.settle 0 fields.element =
    (alone.builder.settle 0 fields.element).behind before.forest
  rw [nothing, built, ForestBuilder.settle_zero_eq_behind]

/-! ## All lines -/

theorem shifted_run_of_started (options : ParseOptions) (number : Nat) (lines : List String)
    (h : Started before alone joined) :
    Shifted offset (Started before) (run options number alone lines).outcome
      (run options (number + offset) joined lines).outcome := by
  induction lines generalizing number alone joined with
  | nil => exact .ok h
  | cons line rest ih =>
    refine (shifted_step_of_started options number line h).bind ?_
    intro alone' joined' h'
    rw [Nat.add_right_comm]
    exact ih (number + 1) h'

/-- Whether every nested line has a line that starts a root somewhere before it. -/
def RootsFirst (lines : List String) : Prop :=
  ∀ earlier line later depth fields, lines = earlier ++ line :: later →
    Line.classify line = .nested depth fields →
      ∃ first ∈ earlier, ∃ fields', Line.classify first = .root fields'

theorem RootsFirst.of_root {line : String} {fields : Line.Fields}
    (kind : Line.classify line = .root fields) (rest : List String) :
    RootsFirst (line :: rest) := by
  intro earlier nested later depth fields' split nested_kind
  cases earlier with
  | nil =>
    obtain ⟨rfl, -⟩ := List.cons.inj split
    rw [kind] at nested_kind
    cases nested_kind
  | cons first earlier =>
    obtain ⟨rfl, -⟩ := List.cons.inj split
    exact ⟨line, List.mem_cons_self, fields, kind⟩

theorem RootsFirst.of_other {line : String} {rest : List String} (h : RootsFirst rest)
    (kind : Line.classify line = .unrecognized) : RootsFirst (line :: rest) := by
  intro earlier nested later depth fields split nested_kind
  cases earlier with
  | nil =>
    obtain ⟨rfl, -⟩ := List.cons.inj split
    rw [kind] at nested_kind
    cases nested_kind
  | cons first earlier =>
    obtain ⟨-, split⟩ := List.cons.inj split
    obtain ⟨root, member, fields', root_kind⟩ :=
      h earlier nested later depth fields split nested_kind
    exact ⟨root, List.mem_cons_of_mem first member, fields', root_kind⟩

theorem RootsFirst.tail {line : String} {rest : List String} (h : RootsFirst (line :: rest))
    (kind : Line.classify line = .unrecognized) : RootsFirst rest := by
  intro earlier nested later depth fields split nested_kind
  obtain ⟨first, member, fields', root⟩ :=
    h (line :: earlier) nested later depth fields (by rw [split]; rfl) nested_kind
  rcases List.mem_cons.1 member with rfl | member
  · rw [kind] at root
    cases root
  · exact ⟨first, member, fields', root⟩

theorem shifted_run_of_waiting (options : ParseOptions) (number : Nat) {lines : List String}
    (roots : RootsFirst lines) (nothing : alone.builder = .empty)
    (built : joined.builder = before) :
    Shifted offset (Follows before) (run options number alone lines).outcome
      (run options (number + offset) joined lines).outcome := by
  induction lines generalizing number alone joined with
  | nil => exact .ok (.waiting nothing built)
  | cons line rest ih =>
    cases kind : Line.classify line with
    | nested depth fields =>
      obtain ⟨first, member, -⟩ := roots [] line rest depth fields rfl kind
      cases member
    | root fields =>
      refine (shifted_step_of_root options number kind nothing built).bind ?_
      intro alone' joined' h'
      rw [Nat.add_right_comm]
      exact (shifted_run_of_started options (number + 1) rest h').imp fun _ _ => .started
    | unrecognized =>
      rw [run, run, step, step, kind]
      refine (shifted_otherLine options number line (fun a b => a = .empty ∧ b = before)
        ⟨nothing, built⟩).bind ?_
      intro alone' joined' h'
      rw [Nat.add_right_comm]
      exact ih (number + 1) (roots.tail kind) h'.1 h'.2

/-! ## Sources -/

theorem html_append (first second : List Element) (options : RenderOptions) :
    (Document.mk (first ++ second)).html options =
      if first = [] then (Document.mk second).html options
      else if second = [] then (Document.mk first).html options
      else (Document.mk first).html options ++ "\n" ++ (Document.mk second).html options := by
  by_cases none_first : first = []
  · rw [if_pos none_first, none_first]
    rfl
  · rw [if_neg none_first]
    by_cases none_second : second = []
    · rw [if_pos none_second, none_second, List.append_nil]
    · rw [if_neg none_second, Document.html, List.map_append,
        String.intercalate_append_of_ne_nil (by simpa using none_first)
          (by simpa using none_second)]
      rfl

theorem run_joined (options : ParseOptions) (first second : String) :
    run options 1 .start
        (options.lineEndings.split (first ++ options.lineEndings.terminator ++ second)) =
      (run options 1 .start (options.lineEndings.split first)).bind fun between =>
        run options (1 + (options.lineEndings.split first).length) between
          (options.lineEndings.split second) := by
  rw [LineEndings.split_append, run_append]

/-- The run of both sources is that of the second further down, behind what was built from the
first. -/
theorem shifted_run_of_parse {options : ParseOptions} {first second : String} {document : Document}
    (parsed : (parse options first).outcome = .ok document)
    (roots : RootsFirst (options.lineEndings.split second)) :
    ∃ before : ForestBuilder, document = ⟨before.forest⟩ ∧
      Shifted (options.lineEndings.split first).length (Follows before)
        (run options 1 .start (options.lineEndings.split second)).outcome
        (run options 1 .start (options.lineEndings.split
          (first ++ options.lineEndings.terminator ++ second))).outcome := by
  obtain ⟨between, ran, finished⟩ := Traced.outcome_bind_eq_ok.1 parsed
  cases finished
  refine ⟨between.builder, rfl, ?_⟩
  rw [run_joined, Traced.outcome_bind_of_ok ran]
  exact shifted_run_of_waiting options 1 roots rfl rfl

/-- **Parsing two sources together.** An error in the first is the error of both, whatever the
second is. If the first can be parsed and in the second every nested line stands somewhere behind
a root, then an error in the second is that of both, further down by the lines of the first; and
if there is none, the roots of the second follow those of the first, and so does their HTML. -/
theorem parse_append (options : ParseOptions) (first second : String) :
    (∀ error, (parse options first).outcome = .error error →
      (parse options (first ++ options.lineEndings.terminator ++ second)).outcome =
        .error error) ∧
    ∀ document, (parse options first).outcome = .ok document →
      RootsFirst (options.lineEndings.split second) →
      (∀ error, (parse options second).outcome = .error error →
        (parse options (first ++ options.lineEndings.terminator ++ second)).outcome =
          .error (error.shift (options.lineEndings.split first).length)) ∧
      ∀ document', (parse options second).outcome = .ok document' →
        ∃ joined,
          (parse options (first ++ options.lineEndings.terminator ++ second)).outcome =
            .ok joined ∧
          joined.roots = document.roots ++ document'.roots ∧
          ∀ render, joined.html render =
            if document.roots = [] then document'.html render
            else if document'.roots = [] then document.html render
            else document.html render ++ "\n" ++ document'.html render := by
  constructor
  · intro error failed
    rw [parse, run_joined, Traced.bind_assoc]
    exact Traced.outcome_bind_of_error (run_of_parse_error failed) _
  · intro document parsed roots
    obtain ⟨before, rfl, shifted⟩ := shifted_run_of_parse parsed roots
    generalize joint : (run options 1 .start (options.lineEndings.split
      (first ++ options.lineEndings.terminator ++ second))).outcome = outcome at shifted
    constructor
    · intro error failed
      rw [run_of_parse_error failed] at shifted
      cases shifted
      exact Traced.outcome_bind_of_error joint finish
    · intro document' parsed'
      obtain ⟨after, ran, finished⟩ := Traced.outcome_bind_eq_ok.1 parsed'
      cases finished
      rw [ran] at shifted
      cases shifted with
      | ok follows =>
        refine ⟨_, outcome_parse_of_run_ok joint, follows.forest_eq, ?_⟩
        intro render
        rw [follows.forest_eq]
        exact html_append _ _ render

/-- The first source ends inside two open elements and with a carriage return that becomes a part
of the separator; the second starts with a blank line and prose. -/
theorem parse_append_inside :
    ∃ document document' joined,
      (parse {} "ul\n li\r").outcome = .ok document ∧
      RootsFirst (LineEndings.any.split "\nwidget\np\n b") ∧
      (parse {} "\nwidget\np\n b").outcome = .ok document' ∧
      (parse {} "ul\n li\r\n\nwidget\np\n b").outcome = .ok joined ∧
      joined.roots = document.roots ++ document'.roots ∧
      (parse .strict "\nwidget\np\n b").outcome = .error (.unrecognizedLine 2 "widget") ∧
      (parse .strict "ul\n li\r\n\nwidget\np\n b").outcome =
        .error (.unrecognizedLine 4 "widget") ∧
      (parse .strict "ul\n   li").outcome = .error (.malformedDepth 2 "   li" 3 1) ∧
      (parse .strict "ul\n   li\n\nwidget\np\n b").outcome =
        .error (.malformedDepth 2 "   li" 3 1) := by
  have lines : LineEndings.any.split "\nwidget\np\n b" = ["", "widget", "p", " b"] := by
    decide +kernel
  have roots : RootsFirst (LineEndings.any.split "\nwidget\np\n b") := by
    have root : Line.classify "p" = .root ⟨"p", "", [""], [], ""⟩ := by decide +kernel
    rw [lines]
    exact ((RootsFirst.of_root root [" b"]).of_other (by decide +kernel)).of_other (by decide)
  obtain ⟨document, first⟩ := Traced.exists_of_isOk
    (show (parse {} "ul\n li\r").outcome.isOk = true by decide +kernel)
  obtain ⟨document', second⟩ := Traced.exists_of_isOk
    (show (parse {} "\nwidget\np\n b").outcome.isOk = true by decide +kernel)
  obtain ⟨strict, first_strict⟩ := Traced.exists_of_isOk
    (show (parse .strict "ul\n li\r").outcome.isOk = true by decide +kernel)
  have second_strict : (parse .strict "\nwidget\np\n b").outcome =
      .error (.unrecognizedLine 2 "widget") :=
    Traced.error?_eq_some.1 (by decide +kernel)
  have too_deep : (parse .strict "ul\n   li").outcome =
      .error (.malformedDepth 2 "   li" 3 1) :=
    Traced.error?_eq_some.1 (by decide +kernel)
  obtain ⟨joined, parsed, together, -⟩ :=
    ((parse_append {} "ul\n li\r" "\nwidget\np\n b").2 document first roots).2 document' second
  refine ⟨document, document', joined, first, roots, second, parsed, together, second_strict, ?_,
    too_deep, (parse_append .strict "ul\n   li" "\nwidget\np\n b").1 _ too_deep⟩
  exact ((parse_append .strict "ul\n li\r" "\nwidget\np\n b").2 strict first_strict roots).1 _
    second_strict

end Parse

end Shorthand
