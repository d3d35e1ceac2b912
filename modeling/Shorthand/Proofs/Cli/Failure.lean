import Shorthand.Proofs.Cli.Conversion

/-!
# Nothing is lost when a conversion fails

The output is opened only when everything else has been done, and nothing is printed before, on each
of the ways on which a document is put out: the program is a session that puts out last
(`writesLast_program`), and so is writing a source as HTML. Whatever it is that fails, it has failed
before anything was put out, or the only write was refused.
-/

namespace Shorthand

open Session (ReadOnly WritesLast)

/-! ## Writing a source as HTML -/

namespace Source

theorem events_html (source : Source) : ∀ event ∈ source.html.events, ¬ event.OfFiles := by
  rw [html_eq]
  exact Parse.events_parse source.parseOptions source.text

/-- What is written is reported, so that a failure goes without the report. -/
theorem events_writeHtml_of_error {source : Source} {path : String} {directory : Directory}
    {error : LoadError}
    (failed : ((source.writeHtml path).runIn directory).outcome = .error error) :
    ∀ event ∈ ((source.writeHtml path).runIn directory).events, ¬ event.OfFiles := by
  rw [runIn_writeHtml] at failed ⊢
  cases converted : source.html.outcome with
  | error error => exact source.events_html
  | ok html =>
    rw [converted] at failed
    simp only at failed ⊢
    cases wrote : directory.write path html.toUTF8 with
    | error fault => exact source.events_html
    | ok after =>
      rw [wrote] at failed
      cases failed

end Source

/-! ## Conversions -/

namespace Cli

theorem readOnly_configuration (command : Command) : ReadOnly command.configuration :=
  ((readOnly_load command.config.toList).mapError _).bind fun _ => .done _

theorem readOnly_source (command : Command) : ReadOnly command.source :=
  (readOnly_configuration command).bind fun _ =>
    ((Source.readOnly_load command.path).mapError _).bind fun _ => .done _

theorem writesLast_put (format : Format) (source : Source) (output : Option String) :
    WritesLast output (format.put source output) := by
  cases format with
  | json =>
    refine .of_bind (.ofTraced _) fun document => ?_
    cases output with
    | none => exact .print _ (.done ())
    | some path => exact Source.writesLast_writeFile path _
  | html =>
    cases output with
    | none => exact .of_bind (.ofTraced _) fun html => .print html (.done ())
    | some path => exact source.writesLast_writeHtml path

theorem writesLast_run (command : Command) : WritesLast command.output command.run :=
  .of_bind (readOnly_source command) fun source =>
    (writesLast_put command.format source command.output).mapError _

/-- The file that arguments ask to be written. -/
def outputOf? (arguments : List String) : Option String :=
  match request arguments with
  | .ok (.convert command) => command.output
  | _ => none

/-- Whatever the arguments are, the program puts out last. -/
theorem writesLast_program (arguments : List String) :
    WritesLast (outputOf? arguments) (program arguments) := by
  rw [outputOf?, program]
  cases request arguments with
  | error error => exact .fail _
  | ok wanted =>
    cases wanted with
    | convert command => exact writesLast_run command
    | version => exact .print _ (.done ())
    | help => exact .print _ (.done ())

theorem exists_command_of_outputOf? {arguments : List String} {path : String}
    (named : outputOf? arguments = some path) :
    ∃ command, request arguments = .ok (.convert command) ∧ command.output = some path := by
  unfold outputOf? at named
  split at named
  · next command asked => exact ⟨command, asked, named⟩
  · cases named

/-- **A failed conversion leaves everything as it was.** A run that does not exit with zero prints
nothing and leaves the directory unchanged, and so does writing a source as HTML, which then reports
no write either. In a directory that has been changed it is the output, and no other file, that has
another content. -/
theorem unchanged_of_failure (arguments : List String) (directory : Directory) :
    let ran := (program arguments).runIn directory
    (exitStatus ran.outcome ≠ 0 → ran.output = "" ∧ ran.directory = directory) ∧
    (∀ file, ran.directory.content? file ≠ directory.content? file →
      ∃ command path, request arguments = .ok (.convert command) ∧
        command.output = some path ∧ directory.target? path = some file) ∧
    ∀ (source : Source) (path : String),
      let wrote := (source.writeHtml path).runIn directory
      (∀ error, wrote.outcome = .error error →
        wrote.directory = directory ∧ ∀ name size, .wroteOutput name size ∉ wrote.events) ∧
      ∀ file, wrote.directory.content? file ≠ directory.content? file →
        directory.target? path = some file := by
  intro ran
  have last := writesLast_program arguments
  refine ⟨?_, ?_, ?_⟩
  · intro failed
    cases ended : ran.outcome with
    | ok result =>
      rw [ended] at failed
      exact absurd rfl failed
    | error failure =>
      have unchanged := last.ends_of_error ended
      exact ⟨unchanged.output, unchanged.directory⟩
  · intro file changed
    obtain ⟨path, named, target⟩ := last.target?_of_changed changed
    obtain ⟨command, asked, output⟩ := exists_command_of_outputOf? named
    exact ⟨command, path, asked, output, target⟩
  · intro source path wrote
    have last := source.writesLast_writeHtml path
    refine ⟨?_, ?_⟩
    · intro error failed
      refine ⟨(last.ends_of_error failed).directory, ?_⟩
      intro name size reported
      exact Source.events_writeHtml_of_error failed _ reported trivial
    · intro file changed
      obtain ⟨path', named, target⟩ := last.target?_of_changed changed
      rwa [Option.some.inj named]

/-- An old page stays when its source is not what a strict conversion wants, when nothing may be
written to it, and when the page is to be in a directory that is not there. Without the flag it is
the page that is replaced. -/
theorem unchanged_of_failure_over_page :
    let directory := Directory.ofFiles [("source", "p\n?".toUTF8), ("page", "old".toUTF8)]
    let guarded : Directory := { directory with
      files := [(["work", "source"], { content := "p".toUTF8 }),
        (["work", "page"], { content := "old".toUTF8, writable := false })] }
    let strict := (program ["--strict", "-o", "page", "source"]).runIn directory
    let lenient := (program ["-o", "page", "source"]).runIn directory
    let refused := (program ["-o", "page", "-f", "json", "source"]).runIn guarded
    let misplaced := (Source.writeHtml { text := "p" } "pages/page").runIn directory
    strict.outcome = .error (.load (.parse (.unrecognizedLine 2 "?"))) ∧
      strict.output = "" ∧ strict.directory = directory ∧
      lenient.directory.read "page" = .ok "<p></p>".toUTF8 ∧
      (∃ command path, request ["-o", "page", "source"] = .ok (.convert command) ∧
        command.output = some path ∧ directory.target? path = some ["work", "page"]) ∧
      refused.outcome = .error (.load (.cannotWrite "page" .permissionDenied)) ∧
      refused.directory = guarded ∧
      misplaced.outcome = .error (.cannotWrite "pages/page" .noSuchFile) ∧
      misplaced.directory = directory := by
  intro directory guarded strict lenient refused misplaced
  have failed : strict.outcome = .error (.load (.parse (.unrecognizedLine 2 "?"))) := by
    decide +kernel
  have nonzero : exitStatus strict.outcome ≠ 0 := by
    rw [failed]
    decide
  have denied : refused.outcome = .error (.load (.cannotWrite "page" .permissionDenied)) := by
    decide +kernel
  have nonzero' : exitStatus refused.outcome ≠ 0 := by
    rw [denied]
    decide
  have changed : lenient.directory.content? ["work", "page"] ≠
      directory.content? ["work", "page"] := by
    decide +kernel
  have nowhere : misplaced.outcome = .error (.cannotWrite "pages/page" .noSuchFile) := by
    decide +kernel
  obtain ⟨unchanged, -, written⟩ :=
    unchanged_of_failure ["--strict", "-o", "page", "source"] directory
  obtain ⟨-, target, -⟩ := unchanged_of_failure ["-o", "page", "source"] directory
  obtain ⟨unchanged', -⟩ := unchanged_of_failure ["-o", "page", "-f", "json", "source"] guarded
  obtain ⟨silent, same⟩ := unchanged nonzero
  obtain ⟨same', -⟩ := (written { text := "p" } "pages/page").1 _ nowhere
  exact ⟨failed, silent, same, by decide +kernel, target _ changed, denied, (unchanged' nonzero').2,
    nowhere, same'⟩

end Cli

end Shorthand
