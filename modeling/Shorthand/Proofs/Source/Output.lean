import Shorthand.Proofs.Files.Session
import Shorthand.Source.Basic

/-!
# Loading and writing a source

What the sessions of a source come to in a directory, with all their events. A file is written only
after everything that can fail, and writing it is reported only when it has succeeded
(`runIn_writeHtml`).
-/

namespace Shorthand

/-! ## Events of a parse -/

namespace Traced

variable {ε α β : Type} {p : Event → Prop}

theorem forall_events_bind {first : Traced ε α} {next : α → Traced ε β}
    (h : ∀ event ∈ first.events, p event) (h' : ∀ result, ∀ event ∈ (next result).events, p event) :
    ∀ event ∈ (first.bind next).events, p event := by
  obtain ⟨events, outcome⟩ := first
  cases outcome with
  | error error => exact h
  | ok result =>
    intro event member
    rcases List.mem_append.1 member with member | member
    · exact h event member
    · exact h' result event member

end Traced

/-- Whether an event tells of files. -/
def Event.OfFiles : Event → Prop
  | loadedSource .. | wroteOutput .. => True
  | rootElement .. | nestedElement .. | droppedNested .. | clampedDepth .. | skippedLine ..
  | parsed .. => False

namespace Parse

theorem events_elementLine (options : ParseOptions) (number : Nat) (line : String) (depth : Nat)
    (element : Element) (progress : Progress) :
    ∀ event ∈ (elementLine options number line depth element progress).events,
      ¬ event.OfFiles := by
  rw [elementLine_eq]
  cases placement options.depth depth progress.builder.height <;>
    simp [Traced.ok, Traced.fail, Event.OfFiles]

theorem events_otherLine (options : ParseOptions) (number : Nat) (line : String)
    (progress : Progress) :
    ∀ event ∈ (otherLine options number line progress).events, ¬ event.OfFiles := by
  unfold otherLine
  by_cases blank : Text.isBlank line = true
  · simp [if_pos blank, Traced.ok]
  · rw [if_neg blank]
    cases options.unrecognizedLines <;> simp [Traced.fail, Event.OfFiles]

theorem events_step (options : ParseOptions) (number : Nat) (line : String) (progress : Progress) :
    ∀ event ∈ (step options number line progress).events, ¬ event.OfFiles := by
  unfold step
  cases Line.classify line with
  | root fields =>
    exact Traced.forall_events_bind (by simp [Traced.report, Event.OfFiles])
      fun _ => events_elementLine options number line 0 fields.element progress
  | nested depth fields =>
    exact Traced.forall_events_bind (by simp [Traced.report, Event.OfFiles])
      fun _ => events_elementLine options number line depth fields.element progress
  | unrecognized => exact events_otherLine options number line progress

theorem events_run (options : ParseOptions) (number : Nat) (progress : Progress)
    (lines : List String) :
    ∀ event ∈ (run options number progress lines).events, ¬ event.OfFiles := by
  induction lines generalizing number progress with
  | nil => simp [run, Traced.ok]
  | cons line rest ih =>
    exact Traced.forall_events_bind (events_step options number line progress)
      fun after => ih (number + 1) after

/-- A parse reports nothing of files. -/
theorem events_parse (options : ParseOptions) (source : String) :
    ∀ event ∈ (parse options source).events, ¬ event.OfFiles :=
  Traced.forall_events_bind (events_run options 1 .start _)
    fun _ => by simp [finish, Event.OfFiles]

end Parse

namespace Source

open Session (Ends ReadOnly WritesLast)

/-! ## Loading -/

theorem runIn_load (path : String) (directory : Directory) :
    (load path).runIn directory =
      match (directory.read path).bind decodeText with
      | .ok text => ⟨[.loadedSource path text.utf8ByteSize], "", .ok { text }, directory⟩
      | .error fault => ⟨[], "", .error (.cannotRead path fault), directory⟩ := by
  rw [load, Session.runIn]
  cases (directory.read path).bind decodeText <;> rfl

theorem ends_load_of_ok {path text : String} {directory : Directory}
    (read : (directory.read path).bind decodeText = .ok text) :
    (load path).Ends directory "" (.ok { text }) directory := by
  constructor <;> rw [runIn_load, read]

theorem ends_load_of_error {path : String} {directory : Directory} {fault : FileFault}
    (read : (directory.read path).bind decodeText = .error fault) :
    (load path).Ends directory "" (.error (.cannotRead path fault)) directory := by
  constructor <;> rw [runIn_load, read]

theorem readOnly_load (path : String) : ReadOnly (load path) := by
  refine .read path ?_
  intro answer
  cases answer.bind decodeText with
  | ok text => exact .report _ (.done _)
  | error fault => exact .fail _

/-! ## Writing -/

theorem runIn_writeFile (path content : String) (directory : Directory) :
    (writeFile path content).runIn directory =
      match directory.write path content.toUTF8 with
      | .ok after => ⟨[], "", .ok (), after⟩
      | .error fault => ⟨[], "", .error (.cannotWrite path fault), directory⟩ := by
  rw [writeFile, Session.runIn]
  cases directory.write path content.toUTF8 <;> rfl

theorem writesLast_writeFile (path content : String) :
    WritesLast (some path) (writeFile path content) :=
  .write content rfl (.done ()) fun fault => ⟨.cannotWrite path fault, rfl⟩

theorem writesLast_writeHtml (source : Source) (path : String) :
    WritesLast (some path) (source.writeHtml path) :=
  .of_bind (.ofTraced _) fun html =>
    (writesLast_writeFile path html).bind fun _ => .report _ (.done ())

theorem html_eq (source : Source) :
    source.html =
      ⟨source.document.events, source.document.outcome.map (·.html source.renderOptions)⟩ := by
  rw [html]
  obtain ⟨events, outcome⟩ := source.document
  cases outcome with
  | error error => rfl
  | ok document => simp [Traced.bind, Traced.ok, Except.map]

theorem outcome_html_of_ok {source : Source} {document : Document}
    (parsed : source.document.outcome = .ok document) :
    source.html.outcome = .ok (document.html source.renderOptions) := by
  rw [html_eq, parsed]
  rfl

theorem outcome_html_of_error {source : Source} {error : ParseError}
    (failed : source.document.outcome = .error error) : source.html.outcome = .error error := by
  rw [html_eq, failed]
  rfl

/-- Writing a source as HTML, step by step. -/
theorem runIn_writeHtml (source : Source) (path : String) (directory : Directory) :
    (source.writeHtml path).runIn directory =
      match source.html.outcome with
      | .error error => ⟨source.html.events, "", .error (.parse error), directory⟩
      | .ok html =>
        match directory.write path html.toUTF8 with
        | .error fault => ⟨source.html.events, "", .error (.cannotWrite path fault), directory⟩
        | .ok after =>
          ⟨source.html.events ++ [.wroteOutput path html.utf8ByteSize], "", .ok (), after⟩ := by
  rw [writeHtml, Session.bind_eq, Session.runIn_bind, Session.runIn_ofTraced]
  cases converted : source.html.outcome with
  | error error =>
    have mapped : (source.html.mapError LoadError.parse).outcome = .error (.parse error) := by
      rw [Traced.mapError, converted]
      rfl
    rw [mapped, Traced.mapError]
  | ok html =>
    have mapped : (source.html.mapError LoadError.parse).outcome = .ok html := by
      rw [Traced.mapError, converted]
      rfl
    rw [mapped, Traced.mapError]
    simp only [Session.bind_eq, Session.runIn_bind, runIn_writeFile, Session.runIn]
    cases directory.write path html.toUTF8 with
    | error fault => simp
    | ok after => rfl

theorem ends_writeFile_of_ok {path content : String} {directory after : Directory}
    (written : directory.write path content.toUTF8 = .ok after) :
    (writeFile path content).Ends directory "" (.ok ()) after := by
  constructor <;> rw [runIn_writeFile, written]

theorem ends_writeFile_of_error {path content : String} {directory : Directory} {fault : FileFault}
    (refused : directory.write path content.toUTF8 = .error fault) :
    (writeFile path content).Ends directory "" (.error (.cannotWrite path fault)) directory := by
  constructor <;> rw [runIn_writeFile, refused]

end Source

end Shorthand
